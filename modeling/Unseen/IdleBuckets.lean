import Mathlib.Algebra.Order.Floor.Semiring
import Mathlib.Data.Rat.Floor
import Unseen.IpLimiter

namespace Unseen

/-!
# Collecting idle buckets

A bucket is collected when it was not used for ten minutes, however slowly it
refills, and the next check of its key starts with a full one.  A run of the
limiter is compared with the run of the same checks without collections.
-/

/-- Checks, as opposed to collections. -/
def LimiterCall.isCheck : LimiterCall → Bool
  | .check _ _ => true
  | .gc => false

/-- The checks of a run, without its collections. -/
def withoutGc (calls : List (ℚ × LimiterCall)) : List (ℚ × LimiterCall) :=
  calls.filter fun call => call.2.isCheck

/-- Throughout a run, no map is full. -/
def StaysBelowMax (limits : IpLimiterConfig) (runtime : Runtime) :
    Buckets → List (ℚ × LimiterCall) → Prop
  | _, [] => True
  | buckets, call :: later =>
      (∀ action, (buckets action).size < maxBucketsPerMap) ∧
        StaysBelowMax limits runtime (perform limits runtime buckets call).1 later

/-- Every check of every run comes out as if nothing had been collected. -/
def GcTransparent (limits : IpLimiterConfig) (runtime : Runtime) : Prop :=
  ∀ calls, InOrder calls →
    StaysBelowMax limits runtime createIpLimiter (withoutGc calls) →
      checks limits runtime createIpLimiter calls =
        checks limits runtime createIpLimiter (withoutGc calls)

/-- A bucket grants nothing at all, or fills in the time it is kept for. -/
def ActionLimits.RefillsInTime (limits : ActionLimits) : Prop :=
  limits.limit < 1 ∨ limits.limit ≤ idleBucketTtlMs / 1000 * limits.refillPerSec

/-! ## One limiter follows the other -/

/-- What a limiter that collects has in common with one that does not. -/
structure Follows (limits : IpLimiterConfig) (now : ℚ) (collected plain : Buckets) : Prop where
  keys : ∀ action key,
    ((collected action).get key).isSome = true → ((plain action).get key).isSome = true
  holds : ∀ action key held,
    (collected action).get key = some held → TokenBucket.Holds (limits action).limit now held
  served : ∀ action key, 1 ≤ (limits action).limit → ∀ later, now ≤ later →
    TokenBucket.available (limits action).limit (limits action).rate
        ((collected action).get key) later =
      TokenBucket.available (limits action).limit (limits action).rate
        ((plain action).get key) later

section Collecting

variable {limits : IpLimiterConfig} {runtime : Runtime} {buckets collected plain : Buckets}
  {key ip : Text} {action : IpAction} {now later : ℚ}

theorem makeRoom_of_lt
    {map : OrderedMap Text Bucket}
    (isBelow : map.size < maxBucketsPerMap)
    (bucket : Option Bucket) :
    makeRoom map bucket = map :=
  if_neg fun isFull => Nat.not_le_of_lt isBelow isFull.2

/-- A check of a map that is not full touches one bucket. -/
theorem get_check
    (isBelow : (buckets action).size < maxBucketsPerMap)
    (other : IpAction)
    (key : Text) :
    ((check limits runtime buckets ip action now).1 other).get key =
      if other = action ∧ key = bucketKey runtime ip then
        some (TokenBucket.consume (limits action).limit (limits action).rate
          ((buckets action).get (bucketKey runtime ip)) now).1
      else
        (buckets other).get key := by
  rw [check_eq]
  simp only [makeRoom_of_lt isBelow]
  by_cases isAction : other = action
  · subst isAction
    rw [Function.update_self]
    by_cases isKey : key = bucketKey runtime ip
    · rw [if_pos ⟨rfl, isKey⟩, isKey, OrderedMap.get_set_self]
    · rw [if_neg fun both => isKey both.2, OrderedMap.get_set_other isKey]
  · rw [if_neg fun both => isAction both.1, Function.update_of_ne isAction]

theorem check_granted :
    (check limits runtime buckets ip action now).2 =
      (TokenBucket.consume (limits action).limit (limits action).rate
        ((buckets action).get (bucketKey runtime ip)) now).2 := by
  rw [check_eq]

/-- Where nothing is ever granted, or as much is there, the same is granted. -/
theorem Follows.consume
    (follows : Follows limits now collected plain)
    (inOrder : now ≤ later)
    (key : Text)
    (action : IpAction) :
    let consumed (buckets : Buckets) :=
      TokenBucket.consume (limits action).limit (limits action).rate
        ((buckets action).get key) later
    (consumed collected).2 = (consumed plain).2 ∧
      (1 ≤ (limits action).limit → (consumed collected).1 = (consumed plain).1) := by
  intro consumed
  by_cases grants : 1 ≤ (limits action).limit
  · have same := follows.served action key grants later inOrder
    have sameConsumed : consumed collected = consumed plain := by
      simp only [consumed, TokenBucket.consume, same]
    exact ⟨congrArg Prod.snd sameConsumed, fun _ => congrArg Prod.fst sameConsumed⟩
  · have denied : ∀ buckets : Buckets, (consumed buckets).2 = false := by
      intro buckets
      have isMost : TokenBucket.available (limits action).limit (limits action).rate
          ((buckets action).get key) later ≤ (limits action).limit :=
        TokenBucket.available_le _ _
      exact congrArg Prod.snd
        (TokenBucket.consume_of_denied (lt_of_le_of_lt isMost (not_le.mp grants)))
    exact ⟨(denied collected).trans (denied plain).symm, fun isLimit => absurd isLimit grants⟩

/-- A check comes out the same, and leaves the limiters alike. -/
theorem Follows.check
    (admitted : ∀ action, (limits action).Admitted)
    (follows : Follows limits now collected plain)
    (inOrder : now ≤ later)
    (isBelow : ∀ action, (plain action).size < maxBucketsPerMap)
    (runtime : Runtime)
    (ip : Text)
    (action : IpAction) :
    (Unseen.check limits runtime collected ip action later).2 =
        (Unseen.check limits runtime plain ip action later).2 ∧
      Follows limits later (Unseen.check limits runtime collected ip action later).1
        (Unseen.check limits runtime plain ip action later).1 := by
  have collectedBelow : (collected action).size < maxBucketsPerMap :=
    lt_of_le_of_lt (OrderedMap.size_le_of_keys (follows.keys action)) (isBelow action)
  obtain ⟨sameGrant, sameBucket⟩ :=
    follows.consume inOrder (bucketKey runtime ip) action
  rw [check_granted, check_granted]
  refine ⟨sameGrant, ?_, ?_, ?_⟩
  · intro other key
    rw [get_check collectedBelow, get_check (isBelow action)]
    split
    · exact fun _ => rfl
    · exact follows.keys other key
  · intro other key held isHeld
    rw [get_check collectedBelow] at isHeld
    split at isHeld
    next same =>
      obtain ⟨rfl, rfl⟩ := same
      cases isHeld
      apply TokenBucket.Holds.consume (admitted other).limit (admitted other).rate
      intro held isHeld
      have holds := follows.holds other _ held isHeld
      exact ⟨holds.nonnegative, holds.limited, le_trans holds.refilled inOrder⟩
    next =>
      have holds := follows.holds other key held isHeld
      exact ⟨holds.nonnegative, holds.limited, le_trans holds.refilled inOrder⟩
  · intro other key isLimit next isNext
    rw [get_check collectedBelow, get_check (isBelow action)]
    split
    next same =>
      obtain ⟨rfl, rfl⟩ := same
      rw [sameBucket isLimit]
    next => exact follows.served other key isLimit next (le_trans inOrder isNext)

/-- A collection removes only what is full again, where buckets refill in time. -/
theorem Follows.gc
    (admitted : ∀ action, (limits action).Admitted)
    (inTime : ∀ action, (limits action).RefillsInTime)
    (follows : Follows limits now collected plain)
    (inOrder : now ≤ later) :
    Follows limits later (Unseen.gc collected later) plain := by
  have isKept : ∀ action key held, (Unseen.gc collected later action).get key = some held →
      (collected action).get key = some held := by
    intro action key held isHeld
    rw [Unseen.gc, OrderedMap.get_filter] at isHeld
    exact (Option.filter_eq_some_iff.mp isHeld).1
  constructor
  · intro action key isStored
    obtain ⟨held, isHeld⟩ := Option.isSome_iff_exists.mp isStored
    exact follows.keys action key (by rw [isKept action key held isHeld]; rfl)
  · intro action key held isHeld
    have holds := follows.holds action key held (isKept action key held isHeld)
    exact ⟨holds.nonnegative, holds.limited, le_trans holds.refilled inOrder⟩
  · intro action key isLimit next isNext
    rw [← follows.served action key isLimit next (le_trans inOrder isNext), Unseen.gc,
      OrderedMap.get_filter]
    cases isStored : (collected action).get key with
    | none => rfl
    | some held =>
        rw [Option.filter_some]
        split
        next => rfl
        next isIdle =>
          have isIdle : held.lastRefill < later - idleBucketTtlMs := by
            rw [decide_eq_true_eq, not_not] at isIdle
            exact isIdle
          have fills : (limits action).limit ≤ idleBucketTtlMs * (limits action).rate := by
            rcases inTime action with grantsNothing | fills
            · exact absurd isLimit (not_le.mpr grantsNothing)
            · rw [ActionLimits.rate]
              linarith
          have notNegative := (follows.holds action key held isStored).nonnegative
          exact (TokenBucket.available_of_idle (admitted action).rate notNegative fills
            (by linarith)).symm

/-- Where buckets refill in time, a run with collections has the checks of the run
without them. -/
theorem Follows.checks
    (admitted : ∀ action, (limits action).Admitted)
    (inTime : ∀ action, (limits action).RefillsInTime)
    {calls : List (ℚ × LimiterCall)}
    (follows : Follows limits now collected plain)
    (isLater : ∀ call ∈ calls, now ≤ call.1)
    (inOrder : InOrder calls)
    (isBelow : StaysBelowMax limits runtime plain (withoutGc calls)) :
    Unseen.checks limits runtime collected calls =
      Unseen.checks limits runtime plain (withoutGc calls) := by
  induction calls generalizing now collected plain with
  | nil => rfl
  | cons call calls ih =>
      obtain ⟨isFirst, restInOrder⟩ := List.pairwise_cons.mp inOrder
      have isNext : ∀ next ∈ calls, call.1 ≤ next.1 := fun next isNext =>
        isFirst next.1 (List.mem_map_of_mem isNext)
      have isNow := isLater call List.mem_cons_self
      obtain ⟨time, called⟩ := call
      cases called with
      | check ip action =>
          obtain ⟨isBelow, staysBelow⟩ := isBelow
          obtain ⟨sameGrant, next⟩ := follows.check admitted isNow isBelow runtime ip action
          have same := ih next isNext restInOrder staysBelow
          simp only [Unseen.checks, withoutGc, List.filter_cons, LimiterCall.isCheck, if_true,
            perform, sameGrant] at same ⊢
          rw [same]
      | gc => exact ih (follows.gc admitted inTime isNow) isNext restInOrder isBelow

theorem Follows.new (limits : IpLimiterConfig) (now : ℚ) :
    Follows limits now createIpLimiter createIpLimiter where
  keys _ _ := id
  holds := by
    intro action key held isHeld
    cases isHeld
  served _ _ _ _ _ := rfl

/-- A run of a new limiter has the checks of the run without its collections. -/
theorem checks_withoutGc
    (admitted : ∀ action, (limits action).Admitted)
    (inTime : ∀ action, (limits action).RefillsInTime)
    {calls : List (ℚ × LimiterCall)}
    (inOrder : InOrder calls)
    (isBelow : StaysBelowMax limits runtime createIpLimiter (withoutGc calls)) :
    Unseen.checks limits runtime createIpLimiter calls =
      Unseen.checks limits runtime createIpLimiter (withoutGc calls) := by
  cases calls with
  | nil => rfl
  | cons call calls =>
      refine (Follows.new limits call.1).checks admitted inTime ?_ inOrder isBelow
      intro next isNext
      rcases List.mem_cons.mp isNext with rfl | isNext
      · exact le_refl _
      · exact (List.pairwise_cons.mp inOrder).1 next.1 (List.mem_map_of_mem isNext)

/-! ## Runs of few keys -/

theorem checks_append (first second : List (ℚ × LimiterCall)) :
    checks limits runtime buckets (first ++ second) =
      checks limits runtime buckets first ++
        checks limits runtime (bucketsAfter limits runtime buckets first) second := by
  induction first generalizing buckets with
  | nil => rfl
  | cons call calls ih =>
      simp only [List.cons_append, checks, ih, List.append_assoc]
      rfl

/-- Only these keys have buckets. -/
def OnlyKeys (keys : List Text) (buckets : Buckets) : Prop :=
  ∀ action key, ((buckets action).get key).isSome = true → key ∈ keys

section FewKeys

variable {keys : List Text}

theorem OnlyKeys.size_lt
    (only : OnlyKeys keys buckets)
    (areFew : keys.length < maxBucketsPerMap)
    (action : IpAction) :
    (buckets action).size < maxBucketsPerMap := by
  refine lt_of_le_of_lt ?_ areFew
  rw [OrderedMap.size_eq_length_keys]
  refine (List.subperm_of_subset (buckets action).distinct ?_).length_le
  intro key isKey
  obtain ⟨held, isHeld⟩ := OrderedMap.mem_keys_iff.mp isKey
  exact only action key (by rw [isHeld]; rfl)

variable (limits now action) in
theorem OnlyKeys.check
    (only : OnlyKeys keys buckets)
    (areFew : keys.length < maxBucketsPerMap)
    (isKey : bucketKey runtime ip ∈ keys) :
    OnlyKeys keys (Unseen.check limits runtime buckets ip action now).1 := by
  intro other key isStored
  rw [get_check (only.size_lt areFew action)] at isStored
  split at isStored
  next same => exact same.2 ▸ isKey
  next => exact only other key isStored

variable (limits) in
/-- While few keys are checked, no map is full and no bucket is lost. -/
theorem OnlyKeys.run
    (only : OnlyKeys keys buckets)
    (areFew : keys.length < maxBucketsPerMap)
    {calls : List (ℚ × LimiterCall)}
    (areChecks : ∀ call ∈ calls, ∃ ip action,
      call.2 = .check ip action ∧ bucketKey runtime ip ∈ keys)
    (key : Text)
    (action : IpAction) :
    StaysBelowMax limits runtime buckets calls ∧
      KeepsBucket limits runtime key action buckets calls := by
  induction calls generalizing buckets with
  | nil => exact ⟨trivial, trivial⟩
  | cons call calls ih =>
      obtain ⟨⟨ip, checked, isCheck, isKey⟩, areRest⟩ := List.forall_mem_cons.mp areChecks
      obtain ⟨now, called⟩ := call
      dsimp only at isCheck
      subst isCheck
      obtain ⟨staysBelow, keeps⟩ := ih (only.check limits checked now areFew isKey) areRest
      refine ⟨⟨only.size_lt areFew, staysBelow⟩, fun isStored => ?_, keeps⟩
      change (((Unseen.check limits runtime buckets ip checked now).1 action).get key).isSome =
        true
      rw [get_check (only.size_lt areFew checked)]
      split
      · rfl
      · exact isStored

end FewKeys

/-- No other key has a bucket. -/
def OnlyKey (key : Text) (buckets : Buckets) : Prop :=
  ∀ action other, ((buckets action).get other).isSome = true → other = key

theorem OnlyKey.onlyKeys (only : OnlyKey key buckets) : OnlyKeys [key] buckets :=
  fun action other isStored => List.mem_singleton.mpr (only action other isStored)

theorem length_singleton_lt (key : Text) : [key].length < maxBucketsPerMap := by
  simp [maxBucketsPerMap]

variable (limits now action) in
theorem OnlyKey.check
    (only : OnlyKey (bucketKey runtime ip) buckets) :
    OnlyKey (bucketKey runtime ip) (Unseen.check limits runtime buckets ip action now).1 := by
  intro other key isStored
  exact List.mem_singleton.mp (only.onlyKeys.check limits action now (length_singleton_lt _)
    List.mem_cons_self other key isStored)

/-- One address checked for one action, at these times. -/
def checksAt (ip : Text) (action : IpAction) (times : List ℚ) : List (ℚ × LimiterCall) :=
  times.map fun now => (now, .check ip action)

variable (limits action) in
theorem OnlyKey.checksAt
    (only : OnlyKey (bucketKey runtime ip) buckets)
    (times : List ℚ) :
    StaysBelowMax limits runtime buckets (Unseen.checksAt ip action times) ∧
      KeepsBucket limits runtime (bucketKey runtime ip) action buckets
        (Unseen.checksAt ip action times) ∧
      OnlyKey (bucketKey runtime ip)
        (bucketsAfter limits runtime buckets (Unseen.checksAt ip action times)) := by
  have areChecks : ∀ call ∈ Unseen.checksAt ip action times, ∃ other action,
      call.2 = .check other action ∧ bucketKey runtime other ∈ [bucketKey runtime ip] := by
    intro call isCall
    obtain ⟨now, -, rfl⟩ := List.mem_map.mp isCall
    exact ⟨ip, action, rfl, List.mem_cons_self⟩
  obtain ⟨staysBelow, keeps⟩ := only.onlyKeys.run limits (length_singleton_lt _) areChecks
    (bucketKey runtime ip) action
  refine ⟨staysBelow, keeps, ?_⟩
  clear areChecks staysBelow keeps
  induction times generalizing buckets with
  | nil => exact only
  | cons now times ih => exact ih (only.check limits action now)

theorem keyTimes_checksAt (times : List ℚ) :
    keyTimes runtime (bucketKey runtime ip) action (checksAt ip action times) = times := by
  induction times with
  | nil => rfl
  | cons now times ih =>
      rw [checksAt, List.map_cons, keyTimes_cons]
      refine (congrArg _ ih).trans ?_
      simp [keyTimes]

theorem withoutGc_checksAt (times : List ℚ) :
    withoutGc (checksAt ip action times) = checksAt ip action times := by
  refine List.filter_eq_self.mpr fun call isCall => ?_
  obtain ⟨now, -, rfl⟩ := List.mem_map.mp isCall
  rfl

/-- Where collections change nothing, a bucket that is collected serves as a new one
would. -/
theorem GcTransparent.log_eq
    (transparent : GcTransparent limits runtime)
    (action : IpAction)
    {first second : List ℚ}
    {collectedAt : ℚ}
    (ordered : (first ++ collectedAt :: second).Pairwise (· ≤ ·))
    {held : Bucket}
    (isHeld : TokenBucket.after (limits action).limit (limits action).rate none first = some held)
    (isIdle : held.lastRefill + idleBucketTtlMs < collectedAt) :
    TokenBucket.log (limits action).limit (limits action).rate (some held) second =
      TokenBucket.log (limits action).limit (limits action).rate none second := by
  have isNew : OnlyKey (bucketKey runtime []) createIpLimiter := by
    intro other key isStored
    cases isStored
  obtain ⟨-, keepsFirst, onlyFirst⟩ :=
    isNew.checksAt limits action first
  obtain ⟨staysBelow, keepsBoth, -⟩ :=
    isNew.checksAt limits action (first ++ second)
  have plain : withoutGc
      (checksAt [] action first ++ (collectedAt, .gc) :: checksAt [] action second) =
        checksAt [] action (first ++ second) := by
    rw [withoutGc, List.filter_append, List.filter_cons, if_neg (by simp [LimiterCall.isCheck])]
    exact congrArg₂ _ (withoutGc_checksAt first) (withoutGc_checksAt second) |>.trans
      List.map_append.symm
  have inOrder : InOrder
      (checksAt [] action first ++ (collectedAt, .gc) :: checksAt [] action second) := by
    simpa [InOrder, checksAt, Function.comp_def] using ordered
  have same := transparent _ inOrder (by rw [plain]; exact staysBelow)
  rw [plain, checks_append] at same
  have sameLog := congrArg (keyLog (bucketKey runtime []) action) same
  obtain ⟨firstLog, firstAfter⟩ := keyLog_eq keepsFirst
  rw [keyLog_append, firstLog, (keyLog_eq keepsBoth).1, keyTimes_checksAt, keyTimes_checksAt,
    TokenBucket.log_append, List.append_cancel_left_eq] at sameLog
  rw [keyTimes_checksAt] at firstAfter
  have isCollected : ((gc (bucketsAfter limits runtime createIpLimiter
      (checksAt [] action first)) collectedAt) action).get (bucketKey runtime []) = none := by
    have isStored : ((bucketsAfter limits runtime createIpLimiter (checksAt [] action first))
        action).get (bucketKey runtime []) = some held := firstAfter.trans isHeld
    rw [gc, OrderedMap.get_filter, isStored, Option.filter_some, if_neg]
    simp only [not_lt, decide_eq_true_eq, not_le]
    linarith
  have onlyRest : OnlyKey (bucketKey runtime [])
      (gc (bucketsAfter limits runtime createIpLimiter (checksAt [] action first))
        collectedAt) := by
    intro other key isStored
    rw [gc, OrderedMap.get_filter] at isStored
    apply onlyFirst other key
    cases isFound : ((bucketsAfter limits runtime createIpLimiter (checksAt [] action first))
        other).get key with
    | none => rw [isFound] at isStored; cases isStored
    | some found => rfl
  obtain ⟨-, keepsRest, -⟩ := onlyRest.checksAt limits action second
  have restLog := (keyLog_eq keepsRest).1
  rw [isCollected, keyTimes_checksAt] at restLog
  refine Eq.trans ?_ (sameLog.symm.trans restLog)
  rw [← isHeld]
  rfl

/-- Where collections change nothing, buckets refill in time: another bucket would be
emptied, collected just before it is full, and grant more than it gained. -/
theorem GcTransparent.refillsInTime
    (admitted : ∀ action, (limits action).Admitted)
    (transparent : GcTransparent limits runtime)
    (action : IpAction) :
    (limits action).RefillsInTime := by
  by_contra notInTime
  obtain ⟨isLimit, isSlow⟩ := not_or.mp notInTime
  rw [not_lt] at isLimit
  rw [not_le] at isSlow
  have isRate := (admitted action).rate
  have tooSlow : idleBucketTtlMs * (limits action).rate < (limits action).limit := by
    rw [ActionLimits.rate]
    linarith
  have hasTtl : 0 ≤ idleBucketTtlMs := by norm_num [idleBucketTtlMs]
  -- The whole tokens of a full bucket, and the part of a token that a burst leaves.
  obtain ⟨count, isCount⟩ : ∃ count, ⌊(limits action).limit⌋₊ = count + 1 :=
    Nat.exists_eq_add_one.mpr (Nat.floor_pos.mpr isLimit)
  have whole : (count : ℚ) + 1 ≤ (limits action).limit := by
    have isFloor := Nat.floor_le (admitted action).limit
    rw [isCount] at isFloor
    exact_mod_cast isFloor
  have isPart : (limits action).limit < count + 2 := by
    have isFloor := Nat.lt_floor_add_one (limits action).limit
    rw [isCount] at isFloor
    push_cast at isFloor
    linarith
  rcases isRate.eq_or_lt with noRate | gains
  · obtain ⟨-, isAfter⟩ :=
      TokenBucket.burst (limits action).limit (limits action).rate (0 : ℚ) none whole
    rw [TokenBucket.available] at isAfter
    have ordered : (List.replicate (count + 1) (0 : ℚ) ++
        (idleBucketTtlMs + 1) :: [idleBucketTtlMs + 1]).Pairwise (· ≤ ·) := by
      simp only [List.pairwise_append, List.mem_replicate, List.pairwise_replicate]
      refine ⟨.inr (le_refl 0), by simp, ?_⟩
      rintro _ ⟨-, rfl⟩ later isLater
      simp only [List.mem_cons, List.not_mem_nil, or_false, or_self] at isLater
      rw [isLater]
      linarith
    have same := transparent.log_eq action ordered isAfter (by linarith)
    have denied : TokenBucket.available (limits action).limit (limits action).rate
        (some ⟨(limits action).limit - (count + 1), 0⟩) (idleBucketTtlMs + 1) < 1 := by
      simp only [TokenBucket.available, ← noRate, mul_zero, add_zero]
      exact lt_of_le_of_lt (min_le_right _ _) (by linarith)
    have granted : ¬ TokenBucket.available (limits action).limit (limits action).rate none
        (idleBucketTtlMs + 1) < 1 :=
      not_lt.mpr isLimit
    simp only [TokenBucket.log, TokenBucket.consume_of_granted granted] at same
    rw [TokenBucket.consume_of_denied denied] at same
    cases same
  · obtain ⟨wait, refills, isWait⟩ : ∃ wait : ℚ,
        (limits action).limit - (count + 1) + wait * (limits action).rate = 1 ∧ 0 ≤ wait := by
      refine ⟨(1 - ((limits action).limit - (count + 1))) / (limits action).rate, ?_, ?_⟩
      · rw [div_mul_cancel₀ _ gains.ne']
        ring
      · exact div_nonneg (by linarith) gains.le
    obtain ⟨extra, isExtra, isPositive⟩ : ∃ extra : ℚ,
        extra * (limits action).rate =
          ((limits action).limit - idleBucketTtlMs * (limits action).rate) / 2 ∧ 0 < extra := by
      refine ⟨((limits action).limit - idleBucketTtlMs * (limits action).rate) / 2 /
        (limits action).rate, div_mul_cancel₀ _ gains.ne', ?_⟩
      exact div_pos (by linarith) gains
    obtain ⟨-, isAfter⟩ := TokenBucket.burst_and_next _ _ (0 : ℚ) whole refills
    rw [zero_add] at isAfter
    obtain ⟨isLog, -⟩ :=
      TokenBucket.burst_and_next _ _ (wait + idleBucketTtlMs + extra) whole refills
    have ordered : ((List.replicate (count + 1) (0 : ℚ) ++ [wait]) ++
        (wait + idleBucketTtlMs + extra) ::
          (List.replicate (count + 1) (wait + idleBucketTtlMs + extra) ++
            [wait + idleBucketTtlMs + extra + wait])).Pairwise (· ≤ ·) := by
      simp only [List.pairwise_append, List.pairwise_cons, List.mem_append, List.mem_cons,
        List.mem_replicate, List.pairwise_replicate, List.not_mem_nil, or_false]
      refine ⟨⟨.inr (le_refl 0), by simp, ?_⟩, ⟨?_, .inr (le_refl _), by simp, ?_⟩, ?_⟩
      · rintro _ ⟨-, rfl⟩ _ rfl
        exact isWait
      · rintro _ (⟨-, rfl⟩ | rfl)
        · exact le_refl _
        · linarith
      · rintro _ ⟨-, rfl⟩ _ rfl
        linarith
      · rintro _ (⟨-, rfl⟩ | rfl) _ (rfl | ⟨-, rfl⟩ | rfl)
        all_goals linarith
    have same := transparent.log_eq action ordered isAfter (by dsimp only; linarith)
    rw [isLog] at same
    have secondOrdered := (List.pairwise_cons.mp (List.pairwise_append.mp ordered).2.1).2
    have atMost := TokenBucket.grants_le (admitted action).limit isRate ⟨0, wait⟩ 0
      (wait + idleBucketTtlMs + extra + wait) secondOrdered
      ⟨le_refl 0, (admitted action).limit, by dsimp only; linarith⟩ ?_
    · have isCount : TokenBucket.grants 0 (wait + idleBucketTtlMs + extra + wait)
          (List.replicate (count + 1) (wait + idleBucketTtlMs + extra, true) ++
            [(wait + idleBucketTtlMs + extra + wait, true)]) = count + 2 := by
        have isLate : 0 ≤ wait + idleBucketTtlMs + extra := by linarith
        have isLater : 0 ≤ wait + idleBucketTtlMs + extra + wait := by linarith
        simp [TokenBucket.grants, List.countP_replicate, isLate, isLater, isWait]
      rw [same, isCount] at atMost
      push_cast at atMost
      have isGain : (wait + idleBucketTtlMs + extra + wait - wait) * (limits action).rate =
          wait * (limits action).rate + idleBucketTtlMs * (limits action).rate +
            extra * (limits action).rate := by ring
      rw [isGain] at atMost
      linarith
    · intro now isNow
      simp only [List.mem_append, List.mem_replicate, List.mem_singleton] at isNow
      rcases isNow with ⟨-, rfl⟩ | rfl
      all_goals dsimp only; linarith

end Collecting

/-- Collections change nothing if and only if each bucket grants nothing at all or
fills within the ten minutes for which it is kept. -/
theorem gc_transparent_iff
    {limits : IpLimiterConfig}
    (admitted : ∀ action, (limits action).Admitted)
    (runtime : Runtime) :
    GcTransparent limits runtime ↔ ∀ action, (limits action).RefillsInTime := by
  constructor
  · intro transparent action
    exact transparent.refillsInTime admitted action
  · intro inTime calls inOrder isBelow
    exact checks_withoutGc admitted inTime inOrder isBelow

theorem refillsInTime_defaults (action : IpAction) : (defaultIpLimits action).RefillsInTime := by
  refine .inr ?_
  cases action
  all_goals norm_num [defaultIpLimits, idleBucketTtlMs]

theorem gc_transparent_of_defaults : GcTransparent defaultIpLimits plainRuntime :=
  (gc_transparent_iff admitted_defaults plainRuntime).mpr refillsInTime_defaults

/-- A bucket of one token that never refills is collected after ten minutes, and
grants another one. -/
theorem gc_grants_again :
    ¬ ∀ limits : IpLimiterConfig, (∀ action, (limits action).Admitted) →
      ∀ runtime : Runtime, GcTransparent limits runtime := by
  intro transparent
  have admitted : (⟨1, 0⟩ : ActionLimits).Admitted := ⟨by norm_num, le_refl 0⟩
  have same := transparent (fun _ => ⟨1, 0⟩) (fun _ => admitted) plainRuntime
    [(0, .check [0x31] .connect), (600001, .gc), (600001, .check [0x31] .connect)]
    (by simp [InOrder]) ?_
  · revert same
    decide +kernel
  · refine ⟨fun action => ?_, fun action => ?_, trivial⟩
    all_goals cases action <;> decide +kernel

end Unseen
