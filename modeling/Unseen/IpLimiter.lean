import Unseen.IpKey
import Unseen.OrderedMap
import Unseen.TokenBucket

namespace Unseen

/-!
# Rate limits

One token bucket for each address and action, and one for each connection.
Times are in milliseconds.  Arithmetic is exact: times, tokens and rates such as
ten a minute are rationals where the source has doubles.
-/

/-- What an address is limited in. -/
inductive IpAction where
  | connect
  | newRoom
  | joinRoom
  | health
  deriving DecidableEq, Repr

structure ActionLimits where
  limit : ℚ
  refillPerSec : ℚ

/-- What `NON_NEGATIVE` lets through for both numbers. -/
structure ActionLimits.Admitted (limits : ActionLimits) : Prop where
  limit : 0 ≤ limits.limit
  refillPerSec : 0 ≤ limits.refillPerSec

/-- `IpLimiterConfig` -/
abbrev IpLimiterConfig := IpAction → ActionLimits

/-- `DEFAULT_IP_LIMITS` -/
def defaultIpLimits : IpLimiterConfig
  | .connect => ⟨100, 100 / 60⟩
  | .newRoom => ⟨10, 10 / 60⟩
  | .joinRoom => ⟨30, 30 / 60⟩
  | .health => ⟨60, 60 / 60⟩

/-- `IDLE_BUCKET_TTL_MS` -/
def idleBucketTtlMs : ℚ := 10 * 60 * 1000

/-- `MAX_BUCKETS_PER_MAP` -/
def maxBucketsPerMap : Nat := 50000

/-- `tokens` and `lastRefillMs` -/
abbrev Bucket := TokenBucket.Bucket ℚ

/-- The tokens of a bucket that was used before, refilled. -/
def refilled (limits : ActionLimits) (bucket : Bucket) (now : ℚ) : ℚ :=
  let elapsedSec := (now - bucket.lastRefill) / 1000
  min limits.limit (bucket.tokens + elapsedSec * limits.refillPerSec)

/-- The tokens there are: all of them where no bucket is stored. -/
def currentTokens (limits : ActionLimits) (bucket : Option Bucket) (now : ℚ) : ℚ :=
  match bucket with
  | none => limits.limit
  | some bucket => refilled limits bucket now

/-! ## Limits by address -/

/-- `buckets` -/
abbrev Buckets := IpAction → OrderedMap Text Bucket

/-- The buckets of a new limiter. -/
def createIpLimiter : Buckets :=
  fun _ => .empty

/-- A full map loses its oldest entry before a new one is made. -/
def makeRoom (map : OrderedMap Text Bucket) (bucket : Option Bucket) : OrderedMap Text Bucket :=
  if bucket.isNone = true ∧ maxBucketsPerMap ≤ map.size then
    match map.keys.head? with
    | some oldest => map.erase oldest
    | none => map
  else
    map

/-- `check` -/
def check (limits : IpLimiterConfig) (runtime : Runtime) (buckets : Buckets) (ip : Text)
    (action : IpAction) (now : ℚ) : Buckets × Bool :=
  let actionLimits := limits action
  let key := bucketKey runtime ip
  let bucket := (buckets action).get key
  let map := makeRoom (buckets action) bucket
  let tokens := currentTokens actionLimits bucket now
  if tokens < 1 then
    (Function.update buckets action (map.set key ⟨tokens, now⟩), false)
  else
    (Function.update buckets action (map.set key ⟨tokens - 1, now⟩), true)

/-- `gc` -/
def gc (buckets : Buckets) (now : ℚ) : Buckets :=
  let cutoff := now - idleBucketTtlMs
  fun action => (buckets action).filter fun bucket => ¬ bucket.lastRefill < cutoff

/-! ## Limits by connection -/

/-- `createRelayBucket` -/
def createRelayBucket (config : ActionLimits) (now : ℚ) : Bucket :=
  ⟨config.limit, now⟩

/-- `consumeRelayToken` -/
def consumeRelayToken (bucket : Bucket) (config : ActionLimits) (now : ℚ) : Bucket × Bool :=
  let refilled := refilled config bucket now
  if refilled < 1 then (⟨refilled, now⟩, false) else (⟨refilled - 1, now⟩, true)

/-- `DEFAULT_RELAY_BUCKET` -/
def defaultRelayBucket : ActionLimits := ⟨2000, 200⟩

/-! ## Runs -/

/-- A call of the limiter. -/
inductive LimiterCall where
  | check (ip : Text) (action : IpAction)
  | gc

/-- A check that was made, and what came of it. -/
structure Check where
  now : ℚ
  key : Text
  action : IpAction
  granted : Bool
  deriving DecidableEq

/-- One call leaves buckets, and a check is answered. -/
def perform (limits : IpLimiterConfig) (runtime : Runtime) (buckets : Buckets)
    (call : ℚ × LimiterCall) : Buckets × Option Check :=
  match call.2 with
  | .check ip action =>
      let (next, granted) := check limits runtime buckets ip action call.1
      (next, some ⟨call.1, bucketKey runtime ip, action, granted⟩)
  | .gc => (gc buckets call.1, none)

/-- The checks of a run. -/
def checks (limits : IpLimiterConfig) (runtime : Runtime) :
    Buckets → List (ℚ × LimiterCall) → List Check
  | _, [] => []
  | buckets, call :: later =>
      let (next, made) := perform limits runtime buckets call
      made.toList ++ checks limits runtime next later

/-- The buckets after a run. -/
def bucketsAfter (limits : IpLimiterConfig) (runtime : Runtime) (buckets : Buckets)
    (calls : List (ℚ × LimiterCall)) : Buckets :=
  calls.foldl (fun buckets call => (perform limits runtime buckets call).1) buckets

/-- The checks of one key and action, with their times. -/
def keyLog (key : Text) (action : IpAction) (made : List Check) : List (ℚ × Bool) :=
  (made.filter fun check => check.key = key ∧ check.action = action).map fun check =>
    (check.now, check.granted)

/-- Calls are in the order of time. -/
def InOrder (calls : List (ℚ × LimiterCall)) : Prop :=
  (calls.map Prod.fst).Pairwise (· ≤ ·)

/-- Throughout a run, the bucket of a key and an action is neither evicted nor
collected. -/
def KeepsBucket (limits : IpLimiterConfig) (runtime : Runtime) (key : Text) (action : IpAction) :
    Buckets → List (ℚ × LimiterCall) → Prop
  | _, [] => True
  | buckets, call :: later =>
      let next := (perform limits runtime buckets call).1
      (((buckets action).get key).isSome = true → ((next action).get key).isSome = true) ∧
        KeepsBucket limits runtime key action next later

/-- The times at which a key is checked for an action. -/
def keyTimes (runtime : Runtime) (key : Text) (action : IpAction)
    (calls : List (ℚ × LimiterCall)) : List ℚ :=
  calls.filterMap fun call =>
    match call.2 with
    | .check ip other =>
        if bucketKey runtime ip = key ∧ other = action then some call.1 else none
    | .gc => none

/-- The checks of a connection, at these times. -/
def relayLog (config : ActionLimits) : Bucket → List ℚ → List (ℚ × Bool)
  | _, [] => []
  | bucket, now :: later =>
      let (next, granted) := consumeRelayToken bucket config now
      (now, granted) :: relayLog config next later

/-- The bucket of a connection after checks at these times. -/
def relayAfter (config : ActionLimits) (bucket : Bucket) (times : List ℚ) : Bucket :=
  times.foldl (fun bucket now => (consumeRelayToken bucket config now).1) bucket

/-! ## Buckets as token buckets -/

/-- Tokens gained in a millisecond. -/
def ActionLimits.rate (limits : ActionLimits) : ℚ :=
  limits.refillPerSec / 1000

theorem ActionLimits.Admitted.rate {limits : ActionLimits} (admitted : limits.Admitted) :
    0 ≤ limits.rate :=
  div_nonneg admitted.refillPerSec (by norm_num)

theorem refilled_eq (limits : ActionLimits) (bucket : Bucket) (now : ℚ) :
    refilled limits bucket now =
      TokenBucket.available limits.limit limits.rate (some bucket) now := by
  have isGain : (now - bucket.lastRefill) / 1000 * limits.refillPerSec =
      (now - bucket.lastRefill) * limits.rate := by
    rw [ActionLimits.rate]
    ring
  simp only [refilled, TokenBucket.available, isGain]

theorem currentTokens_eq (limits : ActionLimits) (bucket : Option Bucket) (now : ℚ) :
    currentTokens limits bucket now =
      TokenBucket.available limits.limit limits.rate bucket now := by
  cases bucket with
  | none => rfl
  | some bucket => exact refilled_eq limits bucket now

theorem consumeRelayToken_eq (config : ActionLimits) (bucket : Bucket) (now : ℚ) :
    consumeRelayToken bucket config now =
      TokenBucket.consume config.limit config.rate (some bucket) now := by
  simp only [consumeRelayToken, TokenBucket.consume, refilled_eq]

theorem relayLog_eq (config : ActionLimits) (bucket : Bucket) (times : List ℚ) :
    relayLog config bucket times =
      TokenBucket.log config.limit config.rate (some bucket) times := by
  induction times generalizing bucket with
  | nil => rfl
  | cons now later ih => simp only [relayLog, TokenBucket.log, ih, consumeRelayToken_eq]

theorem relayAfter_eq (config : ActionLimits) (bucket : Bucket) (times : List ℚ) :
    some (relayAfter config bucket times) =
      TokenBucket.after config.limit config.rate (some bucket) times := by
  induction times generalizing bucket with
  | nil => rfl
  | cons now later ih =>
      rw [relayAfter, List.foldl_cons, consumeRelayToken_eq]
      exact ih _

section Limiter

variable {limits : IpLimiterConfig} {runtime : Runtime} {buckets : Buckets}
  {key ip : Text} {action other : IpAction} {now : ℚ}

theorem check_eq :
    check limits runtime buckets ip action now =
      let bucket := (buckets action).get (bucketKey runtime ip)
      let made := TokenBucket.consume (limits action).limit (limits action).rate bucket now
      (Function.update buckets action
        ((makeRoom (buckets action) bucket).set (bucketKey runtime ip) made.1), made.2) := by
  simp only [check, currentTokens_eq, TokenBucket.consume]
  split <;> rfl

/-- What the limiter keeps of a bucket when room is made: all of it, or nothing. -/
theorem get_makeRoom (map : OrderedMap Text Bucket) (bucket : Option Bucket) (key : Text) :
    (makeRoom map bucket).get key = map.get key ∨ (makeRoom map bucket).get key = none := by
  unfold makeRoom
  split
  next =>
    split
    next oldest _ =>
      by_cases isOldest : key = oldest
      · exact .inr (isOldest ▸ OrderedMap.get_erase_self)
      · exact .inl (OrderedMap.get_erase_other isOldest)
    next => exact .inl rfl
  next => exact .inl rfl

variable (limits buckets now action) in
/-- A check of a key takes from its bucket. -/
theorem perform_own (isKey : bucketKey runtime ip = key) :
    ((perform limits runtime buckets (now, .check ip action)).1 action).get key =
        some (TokenBucket.consume (limits action).limit (limits action).rate
          ((buckets action).get key) now).1 ∧
      (perform limits runtime buckets (now, .check ip action)).2 =
        some ⟨now, key, action,
          (TokenBucket.consume (limits action).limit (limits action).rate
            ((buckets action).get key) now).2⟩ := by
  subst isKey
  simp only [perform, check_eq, Function.update_self]
  exact ⟨OrderedMap.get_set_self, trivial⟩

variable (limits buckets) in
/-- No other call touches the bucket, but for removing it. -/
theorem perform_other
    {call : ℚ × LimiterCall}
    (isOther : ∀ ip, call.2 = .check ip action → bucketKey runtime ip ≠ key) :
    ((perform limits runtime buckets call).1 action).get key = (buckets action).get key ∨
      ((perform limits runtime buckets call).1 action).get key = none := by
  obtain ⟨now, called⟩ := call
  cases called with
  | gc =>
      simp only [perform, gc, OrderedMap.get_filter]
      cases (buckets action).get key with
      | none => exact .inl rfl
      | some bucket =>
          rw [Option.filter_some]
          split
          · exact .inl rfl
          · exact .inr rfl
  | check ip checked =>
      simp only [perform, check_eq]
      by_cases isAction : action = checked
      · subst isAction
        have notKey : key ≠ bucketKey runtime ip := Ne.symm (isOther ip rfl)
        rw [Function.update_self, OrderedMap.get_set_other notKey]
        exact get_makeRoom _ _ key
      · rw [Function.update_of_ne isAction]
        exact .inl rfl

/-- The checks that a call of another kind adds are not of this key and action. -/
theorem keyLog_other
    {call : ℚ × LimiterCall}
    (isOther : ∀ ip, call.2 = .check ip action → bucketKey runtime ip ≠ key) :
    keyLog key action (perform limits runtime buckets call).2.toList = [] := by
  obtain ⟨now, called⟩ := call
  cases called with
  | gc => rfl
  | check ip checked =>
      have notKey : ¬ (bucketKey runtime ip = key ∧ checked = action) := by
        rintro ⟨isKey, rfl⟩
        exact isOther ip rfl isKey
      simp [perform, keyLog, notKey]

theorem keyLog_append (first second : List Check) :
    keyLog key action (first ++ second) = keyLog key action first ++ keyLog key action second := by
  simp [keyLog]

theorem keyTimes_cons (call : ℚ × LimiterCall) (calls : List (ℚ × LimiterCall)) :
    keyTimes runtime key action (call :: calls) =
      keyTimes runtime key action [call] ++ keyTimes runtime key action calls := by
  rw [keyTimes, ← List.singleton_append, List.filterMap_append]
  rfl

theorem keyTimes_other
    {call : ℚ × LimiterCall}
    (isOther : ∀ ip, call.2 = .check ip action → bucketKey runtime ip ≠ key) :
    keyTimes runtime key action [call] = [] := by
  obtain ⟨now, called⟩ := call
  cases called with
  | gc => rfl
  | check ip checked =>
      have notKey : ¬ (bucketKey runtime ip = key ∧ checked = action) := by
        rintro ⟨isKey, rfl⟩
        exact isOther ip rfl isKey
      simp [keyTimes, notKey]

/-- While its bucket is kept, a key is served by a token bucket of its own. -/
theorem keyLog_eq
    {calls : List (ℚ × LimiterCall)}
    (keeps : KeepsBucket limits runtime key action buckets calls) :
    keyLog key action (checks limits runtime buckets calls) =
        TokenBucket.log (limits action).limit (limits action).rate ((buckets action).get key)
          (keyTimes runtime key action calls) ∧
      ((bucketsAfter limits runtime buckets calls) action).get key =
        TokenBucket.after (limits action).limit (limits action).rate ((buckets action).get key)
          (keyTimes runtime key action calls) := by
  induction calls generalizing buckets with
  | nil => exact ⟨rfl, rfl⟩
  | cons call calls ih =>
      obtain ⟨isKept, keeps⟩ := keeps
      obtain ⟨sameLog, sameAfter⟩ := ih keeps
      rw [checks, keyTimes_cons, keyLog_append, sameLog, bucketsAfter, List.foldl_cons]
      change _ ∧ ((bucketsAfter limits runtime _ calls) action).get key = _
      rw [sameAfter]
      by_cases isOwn : ∃ ip, call.2 = .check ip action ∧ bucketKey runtime ip = key
      · obtain ⟨ip, isCheck, isKey⟩ := isOwn
        obtain ⟨now, called⟩ := call
        dsimp only at isCheck
        subst isCheck
        obtain ⟨isNext, isMade⟩ := perform_own limits buckets action now isKey
        have isTime : keyTimes runtime key action [(now, .check ip action)] = [now] := by
          simp [keyTimes, isKey]
        rw [isNext, isMade, isTime]
        constructor
        · rw [List.singleton_append, TokenBucket.log]
          simp [keyLog]
        · rfl
      · have isOther : ∀ ip, call.2 = .check ip action → bucketKey runtime ip ≠ key :=
          fun ip isCheck isKey => isOwn ⟨ip, isCheck, isKey⟩
        have same : ((perform limits runtime buckets call).1 action).get key =
            (buckets action).get key := by
          rcases perform_other limits buckets isOther with same | isGone
          · exact same
          · rw [isGone] at isKept
            cases isBucket : (buckets action).get key with
            | none => exact isGone
            | some bucket => simp [isBucket] at isKept
        rw [keyLog_other isOther, keyTimes_other isOther, same]
        exact ⟨rfl, rfl⟩

theorem InOrder.keyTimes {calls : List (ℚ × LimiterCall)} (inOrder : InOrder calls) :
    (Unseen.keyTimes runtime key action calls).Pairwise (· ≤ ·) := by
  refine List.Pairwise.sublist ?_ inOrder
  induction calls with
  | nil => exact List.Sublist.slnil
  | cons call calls ih =>
      have rest := ih (List.pairwise_cons.mp inOrder).2
      rw [keyTimes_cons, List.map_cons]
      by_cases isOwn : ∃ ip, call.2 = .check ip action ∧ bucketKey runtime ip = key
      · obtain ⟨ip, isCheck, isKey⟩ := isOwn
        have isTime : Unseen.keyTimes runtime key action [call] = [call.1] := by
          simp [Unseen.keyTimes, isCheck, isKey]
        rw [isTime]
        exact rest.cons_cons _
      · have isOther : ∀ ip, call.2 = .check ip action → bucketKey runtime ip ≠ key :=
          fun ip isCheck isKey => isOwn ⟨ip, isCheck, isKey⟩
        rw [keyTimes_other isOther]
        exact rest.cons _

end Limiter

/-! ## The bound on the rate -/

/-- A bucket holds neither a debt nor more than its limit. -/
def WithinLimit (limits : ActionLimits) (bucket : Bucket) : Prop :=
  0 ≤ bucket.tokens ∧ bucket.tokens ≤ limits.limit

/-- In a window of so many seconds no more checks are granted than the limit and what
is refilled in it. -/
def WindowBound (limits : ActionLimits) (log : List (ℚ × Bool)) : Prop :=
  ∀ start seconds : ℚ, 0 ≤ seconds →
    (TokenBucket.grants start (start + seconds * 1000) log : ℚ) ≤
      limits.limit + seconds * limits.refillPerSec

/-- What is left of a log without some of its denied checks. -/
def LeavesOutDenied (kept log : List (ℚ × Bool)) : Prop :=
  kept.Sublist log ∧ kept.filter (·.2) = log.filter (·.2)

section Bound

variable {limits : ActionLimits} {bucket : Option Bucket} {times : List ℚ}

theorem windowBound_log
    (admitted : limits.Admitted)
    (ordered : times.Pairwise (· ≤ ·))
    (holds : ∀ held ∈ bucket, WithinLimit limits held ∧ ∀ now ∈ times, held.lastRefill ≤ now) :
    WindowBound limits (TokenBucket.log limits.limit limits.rate bucket times) := by
  intro start seconds notNegative
  have isWindow : start ≤ start + seconds * 1000 := by linarith
  have isGain : (start + seconds * 1000 - start) * limits.rate = seconds * limits.refillPerSec := by
    rw [ActionLimits.rate]
    ring
  rw [← isGain]
  exact TokenBucket.grants_window admitted.limit admitted.rate isWindow ordered
    fun held isHeld => ⟨(holds held isHeld).1.1, (holds held isHeld).1.2, (holds held isHeld).2⟩

theorem withinLimit_after
    (admitted : limits.Admitted)
    (ordered : times.Pairwise (· ≤ ·))
    (holds : ∀ held ∈ bucket, WithinLimit limits held ∧ ∀ now ∈ times, held.lastRefill ≤ now) :
    ∀ held ∈ TokenBucket.after limits.limit limits.rate bucket times, WithinLimit limits held :=
  TokenBucket.Holds.after admitted.limit admitted.rate ordered
    fun held isHeld => ⟨(holds held isHeld).1.1, (holds held isHeld).1.2, (holds held isHeld).2⟩

theorem log_of_leavesOutDenied
    (admitted : limits.Admitted)
    (ordered : times.Pairwise (· ≤ ·))
    {kept : List (ℚ × Bool)}
    (leavesOut : LeavesOutDenied kept (TokenBucket.log limits.limit limits.rate bucket times)) :
    TokenBucket.log limits.limit limits.rate bucket (kept.map Prod.fst) = kept :=
  TokenBucket.log_of_sublist admitted.rate ordered leavesOut.1 leavesOut.2

end Bound

/-- In exact arithmetic, for each key and action of the limiter whose bucket is neither
evicted nor collected, and for each connection: the stored tokens stay between zero
and the limit, a window of time grants no more than the limit and what is refilled in
it, and denied checks change nothing for the others. -/
theorem rate_bound :
    (∀ (limits : IpLimiterConfig) (runtime : Runtime) (key : Text) (action : IpAction)
        (calls : List (ℚ × LimiterCall)),
      (limits action).Admitted →
      InOrder calls →
      KeepsBucket limits runtime key action createIpLimiter calls →
        (∀ bucket, ((bucketsAfter limits runtime createIpLimiter calls) action).get key =
          some bucket → WithinLimit (limits action) bucket) ∧
        WindowBound (limits action)
          (keyLog key action (checks limits runtime createIpLimiter calls)) ∧
        ∀ kept others,
          LeavesOutDenied kept (keyLog key action (checks limits runtime createIpLimiter calls)) →
          KeepsBucket limits runtime key action createIpLimiter others →
          keyTimes runtime key action others = kept.map Prod.fst →
            keyLog key action (checks limits runtime createIpLimiter others) = kept) ∧
    (∀ (config : ActionLimits) (created : ℚ) (times : List ℚ),
      config.Admitted →
      (created :: times).Pairwise (· ≤ ·) →
        WithinLimit config (relayAfter config (createRelayBucket config created) times) ∧
        WindowBound config (relayLog config (createRelayBucket config created) times) ∧
        ∀ kept,
          LeavesOutDenied kept (relayLog config (createRelayBucket config created) times) →
            relayLog config (createRelayBucket config created) (kept.map Prod.fst) = kept) := by
  constructor
  · intro limits runtime key action calls admitted inOrder keeps
    obtain ⟨isLog, isAfter⟩ := keyLog_eq keeps
    have isNew : ∀ held ∈ (createIpLimiter action).get key, WithinLimit (limits action) held ∧
        ∀ now ∈ keyTimes runtime key action calls, held.lastRefill ≤ now := by
      rintro held ⟨⟩
    have ordered : (keyTimes runtime key action calls).Pairwise (· ≤ ·) := inOrder.keyTimes
    rw [isLog]
    refine ⟨?_, windowBound_log admitted ordered isNew, ?_⟩
    · intro bucket isBucket
      rw [isAfter] at isBucket
      exact withinLimit_after admitted ordered isNew bucket isBucket
    · intro kept others leavesOut keepsToo sameTimes
      rw [(keyLog_eq keepsToo).1, sameTimes]
      exact log_of_leavesOutDenied admitted ordered leavesOut
  · intro config created times admitted ordered
    obtain ⟨isFirst, ordered⟩ := List.pairwise_cons.mp ordered
    have isNew : ∀ held ∈ some (createRelayBucket config created), WithinLimit config held ∧
        ∀ now ∈ times, held.lastRefill ≤ now := by
      rintro _ ⟨⟩
      exact ⟨⟨admitted.limit, le_refl _⟩, isFirst⟩
    simp only [relayLog_eq]
    refine ⟨?_, windowBound_log admitted ordered isNew, fun kept leavesOut => ?_⟩
    · exact withinLimit_after admitted ordered isNew _ (relayAfter_eq config _ times).symm
    · exact log_of_leavesOutDenied admitted ordered leavesOut

theorem admitted_defaults (action : IpAction) : (defaultIpLimits action).Admitted := by
  cases action
  all_goals exact ⟨by norm_num [defaultIpLimits], by norm_num [defaultIpLimits]⟩

/-- One check at a time, and another one after a minute. -/
def Sample.strictLimits : IpLimiterConfig :=
  fun _ => ⟨1, 1 / 60⟩

theorem Sample.admitted_strictLimits (action : IpAction) : (strictLimits action).Admitted :=
  ⟨by norm_num [strictLimits], by norm_num [strictLimits]⟩

/-- A second check within the minute is denied, the one after it is granted. -/
theorem rate_bound_of_strictLimits :
    WindowBound (Sample.strictLimits .connect)
        (keyLog [0x31] .connect
          (checks Sample.strictLimits plainRuntime createIpLimiter
            [(0, .check [0x31] .connect), (5, .check [0x31] .connect),
              (60005, .check [0x31] .connect)])) ∧
      (keyLog [0x31] .connect
          (checks Sample.strictLimits plainRuntime createIpLimiter
            [(0, .check [0x31] .connect), (5, .check [0x31] .connect),
              (60005, .check [0x31] .connect)])).map Prod.snd = [true, false, true] ∧
      WindowBound defaultRelayBucket
        (relayLog defaultRelayBucket (createRelayBucket defaultRelayBucket 0) [3, 4]) := by
  have isKey : bucketKey plainRuntime [0x31] = [0x31] := by decide
  refine ⟨?_, by decide +kernel, ?_⟩
  · refine (rate_bound.1 Sample.strictLimits plainRuntime [0x31] .connect _
      (Sample.admitted_strictLimits .connect) ?_ ?_).2.1
    · norm_num [InOrder]
    · have keeps : ∀ buckets now later,
          KeepsBucket Sample.strictLimits plainRuntime [0x31] .connect
              (perform Sample.strictLimits plainRuntime buckets (now, .check [0x31] .connect)).1
              later →
            KeepsBucket Sample.strictLimits plainRuntime [0x31] .connect buckets
              ((now, .check [0x31] .connect) :: later) := by
        refine fun buckets now later rest => ⟨fun _ => ?_, rest⟩
        rw [(perform_own _ _ _ _ isKey).1]
        rfl
      exact keeps _ _ _ (keeps _ _ _ (keeps _ _ _ trivial))
  · refine (rate_bound.2 defaultRelayBucket 0 [3, 4] ?_ ?_).2.1
    · exact ⟨by norm_num [defaultRelayBucket], by norm_num [defaultRelayBucket]⟩
    · norm_num

end Unseen
