import Unseen.ClientAddress
import Unseen.IdleBuckets

namespace Unseen

/-!
# The budget of a client

Every check is made for the address a request is counted for.  While there are
buckets for all clients, each of them is served as if it were alone.
-/

deriving instance DecidableEq for Ipv4Text, Owner

/-- What makes the server call its limiter. -/
inductive LimiterUse where
  | request (sender : PeerAddress) (header : Text → Option Text) (requestIP : Option Text)
      (action : IpAction)
  | cleanup

namespace LimiterUse

def call (runtime : Runtime) (trustedProxyHeader : Option Text) : LimiterUse → LimiterCall
  | request _ header requestIP action =>
      .check (extractIp runtime header requestIP trustedProxyHeader) action
  | cleanup => .gc

def sender? : LimiterUse → Option PeerAddress
  | request sender _ _ _ => some sender
  | cleanup => none

/-- A request reaches the server from its sender. -/
def Arrives (trustedProxyHeader : Option Text) : LimiterUse → Prop
  | request sender header requestIP _ => ComesFrom sender header requestIP trustedProxyHeader
  | cleanup => True

/-- A request for an action that counts for an owner. -/
def isOf (owner : Owner) (action : IpAction) : LimiterUse → Bool
  | request sender _ _ asked => sender.owner = owner && asked = action
  | cleanup => false

end LimiterUse

/-- The calls of the limiter, with their times. -/
def limiterCalls (runtime : Runtime) (trustedProxyHeader : Option Text)
    (uses : List (ℚ × LimiterUse)) : List (ℚ × LimiterCall) :=
  uses.map fun use => (use.1, use.2.call runtime trustedProxyHeader)

/-- The requests of a run, with the checks made for them. -/
def answered (limits : IpLimiterConfig) (runtime : Runtime) (trustedProxyHeader : Option Text) :
    Buckets → List (ℚ × LimiterUse) → List (LimiterUse × Check)
  | _, [] => []
  | buckets, use :: later =>
      let (next, made) :=
        perform limits runtime buckets (use.1, use.2.call runtime trustedProxyHeader)
      made.toList.map (fun check => (use.2, check)) ++
        answered limits runtime trustedProxyHeader next later

/-- What the requests of an owner for an action were answered. -/
def ownerLog (owner : Owner) (action : IpAction) (made : List (LimiterUse × Check)) :
    List (ℚ × Bool) :=
  (made.filter fun answer => answer.1.isOf owner action).map fun answer =>
    (answer.2.now, answer.2.granted)

/-- When an owner made requests for an action. -/
def requestTimes (owner : Owner) (action : IpAction) (uses : List (ℚ × LimiterUse)) : List ℚ :=
  uses.filterMap fun use => if use.2.isOf owner action then some use.1 else none

/-! ## Requests and their buckets -/

section Requests

variable {limits : IpLimiterConfig} {runtime : Runtime} {trustedProxyHeader : Option Text}
  {uses : List (ℚ × LimiterUse)} {client sender : PeerAddress} {action asked : IpAction}
  {header : Text → Option Text} {requestIP : Option Text}

theorem bucketKey_extractIp_iff
    (documented : runtime.Documented)
    (comes : ComesFrom sender header requestIP trustedProxyHeader)
    (client : PeerAddress) :
    bucketKey runtime (extractIp runtime header requestIP trustedProxyHeader) =
        bucketKey runtime client.normalized ↔
      sender.owner = client.owner := by
  rw [extractIp_eq documented comes]
  exact bucketKey_normalized_iff documented sender client

theorem ownerLog_append (owner : Owner) (first second : List (LimiterUse × Check)) :
    ownerLog owner action (first ++ second) =
      ownerLog owner action first ++ ownerLog owner action second := by
  simp [ownerLog]

/-- The requests of a client are the checks of its key. -/
theorem ownerLog_answered
    (documented : runtime.Documented)
    (arrive : ∀ use ∈ uses, use.2.Arrives trustedProxyHeader)
    (buckets : Buckets) :
    ownerLog client.owner action (answered limits runtime trustedProxyHeader buckets uses) =
      keyLog (bucketKey runtime client.normalized) action
        (checks limits runtime buckets (limiterCalls runtime trustedProxyHeader uses)) := by
  induction uses generalizing buckets with
  | nil => rfl
  | cons use uses ih =>
      obtain ⟨arrives, arrive⟩ := List.forall_mem_cons.mp arrive
      rw [limiterCalls, List.map_cons, ← limiterCalls, checks, keyLog_append, ← ih arrive, answered,
        ownerLog_append]
      congr 1
      obtain ⟨now, used⟩ := use
      cases used with
      | cleanup => rfl
      | request sender header requestIP asked =>
          have isKey := bucketKey_extractIp_iff documented arrives client
          by_cases isOwn : sender.owner = client.owner ∧ asked = action
          · simp [ownerLog, keyLog, LimiterUse.call, LimiterUse.isOf, perform, isKey, isOwn]
          · simp [ownerLog, keyLog, LimiterUse.call, LimiterUse.isOf, perform, isKey, isOwn]

/-- The times of a client's requests are those at which its key is checked. -/
theorem keyTimes_limiterCalls
    (documented : runtime.Documented)
    (arrive : ∀ use ∈ uses, use.2.Arrives trustedProxyHeader) :
    keyTimes runtime (bucketKey runtime client.normalized) action
        (withoutGc (limiterCalls runtime trustedProxyHeader uses)) =
      requestTimes client.owner action uses := by
  rw [keyTimes, withoutGc, limiterCalls, List.filterMap_filter, List.filterMap_map, requestTimes]
  refine List.filterMap_congr fun use isUse => ?_
  have arrives := arrive use isUse
  obtain ⟨now, used⟩ := use
  cases used with
  | cleanup => rfl
  | request sender header requestIP asked =>
      have isKey := bucketKey_extractIp_iff documented arrives client
      simp [LimiterUse.call, LimiterUse.isOf, LimiterCall.isCheck, isKey]

/-- Each check is one of a client's key. -/
theorem key_of_mem_limiterCalls
    (documented : runtime.Documented)
    (arrive : ∀ use ∈ uses, use.2.Arrives trustedProxyHeader)
    {clients : List PeerAddress}
    (areClients : ∀ use ∈ uses, ∀ sender ∈ use.2.sender?,
      ∃ client ∈ clients, sender.owner = client.owner) :
    ∀ call ∈ withoutGc (limiterCalls runtime trustedProxyHeader uses), ∃ ip action,
      call.2 = .check ip action ∧
        bucketKey runtime ip ∈ clients.map fun client => bucketKey runtime client.normalized := by
  intro call isCall
  obtain ⟨isCall, isCheck⟩ := List.mem_filter.mp isCall
  obtain ⟨use, isUse, rfl⟩ := List.mem_map.mp isCall
  have arrives := arrive use isUse
  have isClient := areClients use isUse
  obtain ⟨now, used⟩ := use
  cases used with
  | cleanup => cases isCheck
  | request sender header requestIP asked =>
      obtain ⟨client, isListed, sameOwner⟩ := isClient sender rfl
      refine ⟨_, _, rfl, List.mem_map.mpr ⟨client, isListed, ?_⟩⟩
      exact ((bucketKey_extractIp_iff documented arrives client).mpr sameOwner).symm

end Requests

/-- With fewer clients than buckets, whatever headers they write and whenever the limiter
is cleaned up, the requests of a client for an action are granted as those of a token
bucket of its own, and so within its limit and what is refilled. -/
theorem budget_of_client
    {limits : IpLimiterConfig}
    {runtime : Runtime}
    {trustedProxyHeader : Option Text}
    {uses : List (ℚ × LimiterUse)}
    (clients : List PeerAddress)
    (documented : runtime.Documented)
    (admitted : ∀ action, (limits action).Admitted)
    (inTime : ∀ action, (limits action).RefillsInTime)
    (inOrder : (uses.map Prod.fst).Pairwise (· ≤ ·))
    (arrive : ∀ use ∈ uses, use.2.Arrives trustedProxyHeader)
    (areFew : clients.length < maxBucketsPerMap)
    (areClients : ∀ use ∈ uses, ∀ sender ∈ use.2.sender?,
      ∃ client ∈ clients, sender.owner = client.owner)
    (client : PeerAddress)
    (action : IpAction) :
    ownerLog client.owner action
        (answered limits runtime trustedProxyHeader createIpLimiter uses) =
        TokenBucket.log (limits action).limit (limits action).rate none
          (requestTimes client.owner action uses) ∧
      WindowBound (limits action)
        (ownerLog client.owner action
          (answered limits runtime trustedProxyHeader createIpLimiter uses)) := by
  have callsInOrder : InOrder (limiterCalls runtime trustedProxyHeader uses) := by
    simpa [InOrder, limiterCalls, Function.comp_def] using inOrder
  have isNew : OnlyKeys (clients.map fun client => bucketKey runtime client.normalized)
      createIpLimiter := by
    intro action key isStored
    cases isStored
  obtain ⟨staysBelow, keeps⟩ := isNew.run limits (by simpa using areFew)
    (key_of_mem_limiterCalls documented arrive areClients)
    (bucketKey runtime client.normalized) action
  have isLog : ownerLog client.owner action
      (answered limits runtime trustedProxyHeader createIpLimiter uses) =
        TokenBucket.log (limits action).limit (limits action).rate none
          (requestTimes client.owner action uses) := by
    rw [ownerLog_answered documented arrive,
      checks_withoutGc admitted inTime callsInOrder staysBelow, (keyLog_eq keeps).1,
      keyTimes_limiterCalls documented arrive]
    rfl
  have timesInOrder : (requestTimes client.owner action uses).Pairwise (· ≤ ·) := by
    rw [← keyTimes_limiterCalls documented arrive]
    exact InOrder.keyTimes (callsInOrder.sublist (List.filter_sublist.map Prod.fst))
  refine ⟨isLog, ?_⟩
  rw [isLog]
  exact windowBound_log (admitted action) timesInOrder (by rintro held ⟨⟩)

/-- What the proxy writes for a client that sends no such header. -/
def Sample.ownHeader : Text → Option Text := fun _ =>
  some (appendAddress none [] [] (PeerAddress.ipv4 ⟨9, 8, 7, 6⟩).text)

theorem Sample.ownHeader_comesFrom :
    ComesFrom (.ipv4 ⟨9, 8, 7, 6⟩) Sample.ownHeader none (some [0x78]) :=
  .proxied none (List.all_eq_true.mp rfl) rfl

/-- A client that writes forged headers is denied a second request within a minute; another
client asks meanwhile; after ten minutes the first one's bucket is collected. -/
def Sample.shared : List (ℚ × LimiterUse) :=
  [ (0, .request (.ipv4 ⟨1, 2, 3, 4⟩) spoofedHeader none .health),
    (5, .request (.ipv4 ⟨1, 2, 3, 4⟩) spoofedHeader none .health),
    (10, .request (.ipv4 ⟨9, 8, 7, 6⟩) Sample.ownHeader none .health),
    (600010, .cleanup),
    (600020, .request (.ipv4 ⟨1, 2, 3, 4⟩) spoofedHeader none .health) ]

theorem budget_of_spoofer :
    ownerLog (PeerAddress.ipv4 ⟨1, 2, 3, 4⟩).owner .health
        (answered Sample.strictLimits plainRuntime (some [0x78]) createIpLimiter Sample.shared) =
        TokenBucket.log (Sample.strictLimits .health).limit (Sample.strictLimits .health).rate none
          (requestTimes (PeerAddress.ipv4 ⟨1, 2, 3, 4⟩).owner .health Sample.shared) ∧
      (ownerLog (PeerAddress.ipv4 ⟨1, 2, 3, 4⟩).owner .health
        (answered Sample.strictLimits plainRuntime (some [0x78]) createIpLimiter
          Sample.shared)).map Prod.snd = [true, false, true] := by
  constructor
  · refine (budget_of_client [.ipv4 ⟨1, 2, 3, 4⟩, .ipv4 ⟨9, 8, 7, 6⟩] plainRuntime_documented
      Sample.admitted_strictLimits (fun _ => .inr ?_) ?_ ?_ ?_ ?_ _ .health).1
    · norm_num [Sample.strictLimits, idleBucketTtlMs]
    · norm_num [Sample.shared]
    · simp [Sample.shared, LimiterUse.Arrives, spoofedHeader_comesFrom, Sample.ownHeader_comesFrom]
    · simp [maxBucketsPerMap]
    · simp [Sample.shared, LimiterUse.sender?]
  · decide +kernel

end Unseen
