import Mathlib.Algebra.Order.Field.Basic
import Mathlib.Tactic.Linarith
import Mathlib.Tactic.Ring

/-!
# Token buckets

A bucket holds at most `limit` tokens and gains `rate` of them in each unit of
time.  A check takes a token if there is one, and is denied otherwise.  A bucket
that was never used is full, and is not stored.  Tokens and times are elements of
an ordered field: nothing is rounded.
-/

namespace TokenBucket

variable {K : Type} [Field K] [LinearOrder K]

/-- A bucket that was used. -/
structure Bucket (K : Type) where
  tokens : K
  lastRefill : K

/-- The tokens there are at a time. -/
def available (limit rate : K) (bucket : Option (Bucket K)) (now : K) : K :=
  match bucket with
  | none => limit
  | some bucket => min limit (bucket.tokens + (now - bucket.lastRefill) * rate)

/-- A check takes a token, or is denied. -/
def consume (limit rate : K) (bucket : Option (Bucket K)) (now : K) : Bucket K × Bool :=
  let tokens := available limit rate bucket now
  if tokens < 1 then (⟨tokens, now⟩, false) else (⟨tokens - 1, now⟩, true)

/-- The times of checks and what came of them. -/
def log (limit rate : K) : Option (Bucket K) → List K → List (K × Bool)
  | _, [] => []
  | bucket, now :: later =>
      (now, (consume limit rate bucket now).2) ::
        log limit rate (some (consume limit rate bucket now).1) later

/-- The bucket after checks at these times. -/
def after (limit rate : K) (bucket : Option (Bucket K)) (times : List K) : Option (Bucket K) :=
  times.foldl (fun bucket now => some (consume limit rate bucket now).1) bucket

/-- How many checks of a log were granted from one time to another. -/
def grants (start finish : K) (checks : List (K × Bool)) : Nat :=
  checks.countP fun check => check.2 && decide (start ≤ check.1) && decide (check.1 ≤ finish)

variable {limit rate now : K} {bucket other : Option (Bucket K)}

theorem consume_of_denied (denied : available limit rate bucket now < 1) :
    consume limit rate bucket now = (⟨available limit rate bucket now, now⟩, false) :=
  if_pos denied

theorem consume_of_granted (granted : ¬ available limit rate bucket now < 1) :
    consume limit rate bucket now = (⟨available limit rate bucket now - 1, now⟩, true) :=
  if_neg granted

theorem available_le (bucket : Option (Bucket K)) (now : K) :
    available limit rate bucket now ≤ limit := by
  cases bucket with
  | none => exact le_refl limit
  | some bucket => exact min_le_left _ _

theorem after_append (first second : List K) :
    after limit rate bucket (first ++ second) =
      after limit rate (after limit rate bucket first) second :=
  List.foldl_append

theorem log_append (first second : List K) :
    log limit rate bucket (first ++ second) =
      log limit rate bucket first ++ log limit rate (after limit rate bucket first) second := by
  induction first generalizing bucket with
  | nil => rfl
  | cons now later ih =>
      rw [List.cons_append, log, log, ih, List.cons_append]
      rfl

/-- The log depends on the bucket only through the tokens at its first check. -/
theorem log_congr
    {times : List K}
    (same : ∀ now ∈ times.head?, available limit rate bucket now = available limit rate other now) :
    log limit rate bucket times = log limit rate other times := by
  cases times with
  | nil => rfl
  | cons now later =>
      have sameConsume : consume limit rate bucket now = consume limit rate other now := by
        unfold consume
        rw [same now (by simp)]
      simp only [log, sameConsume]

theorem map_log (times : List K) : (log limit rate bucket times).map Prod.fst = times := by
  induction times generalizing bucket with
  | nil => rfl
  | cons now later ih => rw [log, List.map_cons, ih]

theorem grants_cons {K : Type} [LinearOrder K]
    (start finish : K)
    (check : K × Bool)
    (checks : List (K × Bool)) :
    grants start finish (check :: checks) =
      grants start finish checks +
        if (check.2 && decide (start ≤ check.1) && decide (check.1 ≤ finish)) = true then 1
        else 0 :=
  List.countP_cons

theorem grants_of_later
    {start finish : K}
    {times : List K}
    (isLater : ∀ now ∈ times, finish < now) :
    grants start finish (log limit rate bucket times) = 0 := by
  refine List.countP_eq_zero.mpr fun check isCheck => ?_
  have isTime : check.1 ∈ times := by
    have isMapped := List.mem_map_of_mem (f := Prod.fst) isCheck
    rwa [map_log] at isMapped
  simp [not_le.mpr (isLater _ isTime)]

/-- What a check leaves and what it granted. -/
theorem consume_tokens (bucket : Option (Bucket K)) (now : K) :
    (consume limit rate bucket now).1.tokens +
        (if (consume limit rate bucket now).2 = true then 1 else 0) =
      available limit rate bucket now := by
  by_cases denied : available limit rate bucket now < 1
  · simp [consume_of_denied denied]
  · simp [consume_of_granted denied]

theorem consume_lastRefill (bucket : Option (Bucket K)) (now : K) :
    (consume limit rate bucket now).1.lastRefill = now := by
  unfold consume
  dsimp only
  split <;> rfl

/-! ## Levels -/

/-- A bucket holds neither a debt nor more than the limit, and was refilled before
a time. -/
structure Holds (limit now : K) (bucket : Bucket K) : Prop where
  nonnegative : 0 ≤ bucket.tokens
  limited : bucket.tokens ≤ limit
  refilled : bucket.lastRefill ≤ now

variable [IsStrictOrderedRing K]

theorem available_nonneg
    (isLimit : 0 ≤ limit)
    (isRate : 0 ≤ rate)
    (holds : ∀ held ∈ bucket, Holds limit now held) :
    0 ≤ available limit rate bucket now := by
  cases bucket with
  | none => exact isLimit
  | some held =>
      have isHeld := holds held rfl
      refine le_min isLimit (add_nonneg isHeld.nonnegative (mul_nonneg ?_ isRate))
      exact sub_nonneg.mpr isHeld.refilled

theorem Holds.consume
    (isLimit : 0 ≤ limit)
    (isRate : 0 ≤ rate)
    (holds : ∀ held ∈ bucket, Holds limit now held) :
    Holds limit now (consume limit rate bucket now).1 := by
  have isMost : available limit rate bucket now ≤ limit := available_le bucket now
  by_cases denied : available limit rate bucket now < 1
  · rw [consume_of_denied denied]
    exact ⟨available_nonneg isLimit isRate holds, isMost, le_refl now⟩
  · rw [consume_of_granted denied]
    exact ⟨sub_nonneg.mpr (not_lt.mp denied), by dsimp only; linarith, le_refl now⟩

/-- Checks in the order of time keep the level within its limits. -/
theorem Holds.after
    (isLimit : 0 ≤ limit)
    (isRate : 0 ≤ rate)
    {times : List K}
    (ordered : times.Pairwise (· ≤ ·))
    (holds : ∀ held ∈ bucket, 0 ≤ held.tokens ∧ held.tokens ≤ limit ∧
      ∀ now ∈ times, held.lastRefill ≤ now) :
    ∀ held ∈ TokenBucket.after limit rate bucket times,
      0 ≤ held.tokens ∧ held.tokens ≤ limit := by
  induction times generalizing bucket with
  | nil =>
      intro held isHeld
      exact ⟨(holds held isHeld).1, (holds held isHeld).2.1⟩
  | cons now later ih =>
      obtain ⟨isFirst, ordered⟩ := List.pairwise_cons.mp ordered
      apply ih ordered
      intro held isHeld
      cases isHeld
      have next : Holds limit now (TokenBucket.consume limit rate bucket now).1 := by
        apply Holds.consume isLimit isRate
        intro held isHeld
        obtain ⟨nonnegative, limited, refilled⟩ := holds held isHeld
        exact ⟨nonnegative, limited, refilled now List.mem_cons_self⟩
      refine ⟨next.nonnegative, next.limited, fun other isOther => ?_⟩
      exact le_trans next.refilled (isFirst other isOther)

/-! ## Denied checks -/

/-- A denied check leaves as much as if it had not been made. -/
theorem available_of_denied
    (isRate : 0 ≤ rate)
    (denied : available limit rate bucket now < 1)
    {later : K}
    (inOrder : now ≤ later) :
    available limit rate (some (consume limit rate bucket now).1) later =
      available limit rate bucket later := by
  rw [consume_of_denied denied]
  have gains : 0 ≤ (later - now) * rate := mul_nonneg (sub_nonneg.mpr inOrder) isRate
  cases bucket with
  | none =>
      simp only [available]
      exact min_eq_left (by linarith)
  | some held =>
      have splits : held.tokens + (later - held.lastRefill) * rate =
          held.tokens + (now - held.lastRefill) * rate + (later - now) * rate := by ring
      simp only [available, splits]
      rcases le_total limit (held.tokens + (now - held.lastRefill) * rate) with full | notFull
      · rw [min_eq_left full, min_eq_left (by linarith), min_eq_left (by linarith)]
      · rw [min_eq_right notFull]

/-- Leaving out denied checks leaves every other check as it was. -/
theorem log_of_sublist
    (isRate : 0 ≤ rate)
    {times : List K}
    (ordered : times.Pairwise (· ≤ ·))
    {kept : List (K × Bool)}
    (isSublist : kept.Sublist (log limit rate bucket times))
    (keepsGrants : kept.filter (·.2) = (log limit rate bucket times).filter (·.2)) :
    log limit rate bucket (kept.map Prod.fst) = kept := by
  induction times generalizing bucket kept with
  | nil =>
      cases isSublist
      rfl
  | cons now later ih =>
      obtain ⟨isFirst, ordered⟩ := List.pairwise_cons.mp ordered
      rw [log] at isSublist keepsGrants
      cases isSublist with
      | cons_cons _ isSublist =>
          rename_i others
          have sameGrants : others.filter (·.2) =
              (log limit rate (some (consume limit rate bucket now).1) later).filter (·.2) := by
            by_cases granted : (consume limit rate bucket now).2 = true
            · simpa [List.filter_cons, granted] using keepsGrants
            · simpa [List.filter_cons, granted] using keepsGrants
          rw [List.map_cons, log, ih ordered isSublist sameGrants]
      | cons _ isSublist =>
          have denied : available limit rate bucket now < 1 := by
            by_contra granted
            rw [consume_of_granted granted] at isSublist keepsGrants
            have isShorter := (isSublist.filter (·.2)).length_le
            rw [keepsGrants] at isShorter
            simp at isShorter
          have sameGrants : kept.filter (·.2) =
              (log limit rate (some (consume limit rate bucket now).1) later).filter (·.2) := by
            rw [keepsGrants, consume_of_denied denied]
            simp
          refine (log_congr ?_).trans (ih ordered isSublist sameGrants)
          intro next isNext
          refine (available_of_denied isRate denied (isFirst next ?_)).symm
          have isKept := (isSublist.map Prod.fst).subset (List.mem_of_mem_head? isNext)
          rwa [map_log] at isKept

/-! ## Grants in a window of time -/

/-- Up to a time, no more is granted than there is and than is gained. -/
theorem grants_le
    (isLimit : 0 ≤ limit)
    (isRate : 0 ≤ rate)
    (held : Bucket K)
    (start finish : K)
    {times : List K}
    (ordered : times.Pairwise (· ≤ ·))
    (holds : Holds limit finish held)
    (isLater : ∀ now ∈ times, held.lastRefill ≤ now) :
    (grants start finish (log limit rate (some held) times) : K) ≤
      held.tokens + (finish - held.lastRefill) * rate := by
  induction times generalizing held with
  | nil =>
      have gains := mul_nonneg (sub_nonneg.mpr holds.refilled) isRate
      simp only [log, grants, List.countP_nil, Nat.cast_zero]
      linarith [holds.nonnegative]
  | cons now later ih =>
      obtain ⟨isFirst, ordered⟩ := List.pairwise_cons.mp ordered
      rcases lt_or_ge finish now with tooLate | inTime
      · have gains := mul_nonneg (sub_nonneg.mpr holds.refilled) isRate
        rw [grants_of_later]
        · rw [Nat.cast_zero]
          linarith [holds.nonnegative]
        · intro next isNext
          rcases List.mem_cons.mp isNext with rfl | isNext
          · exact tooLate
          · exact lt_of_lt_of_le tooLate (isFirst next isNext)
      · have next : Holds limit now (consume limit rate (some held) now).1 := by
          apply Holds.consume isLimit isRate
          rintro _ ⟨⟩
          exact ⟨holds.nonnegative, holds.limited, isLater now List.mem_cons_self⟩
        have rest := ih _ ordered ⟨next.nonnegative, next.limited, le_trans next.refilled inTime⟩
          (by rw [consume_lastRefill]; exact isFirst)
        have spent : (consume limit rate (some held) now).1.tokens + _ = _ :=
          consume_tokens (some held) now
        have gained : available limit rate (some held) now ≤
            held.tokens + (now - held.lastRefill) * rate := min_le_right _ _
        rw [consume_lastRefill] at rest
        rw [log, grants_cons]
        push_cast
        split
        next granted =>
          simp only [Bool.and_eq_true] at granted
          rw [if_pos granted.1.1] at spent
          linarith
        next =>
          have isPart : (0 : K) ≤
              if (consume limit rate (some held) now).2 = true then 1 else 0 := by
            split <;> norm_num
          linarith

/-- In a window of time no more is granted than the limit and what is gained in it. -/
theorem grants_window
    (isLimit : 0 ≤ limit)
    (isRate : 0 ≤ rate)
    {start finish : K}
    (isWindow : start ≤ finish)
    {times : List K}
    (ordered : times.Pairwise (· ≤ ·))
    (holds : ∀ held ∈ bucket, 0 ≤ held.tokens ∧ held.tokens ≤ limit ∧
      ∀ now ∈ times, held.lastRefill ≤ now) :
    (grants start finish (log limit rate bucket times) : K) ≤
      limit + (finish - start) * rate := by
  have gains := mul_nonneg (sub_nonneg.mpr isWindow) isRate
  induction times generalizing bucket with
  | nil =>
      simp only [log, grants, List.countP_nil, Nat.cast_zero]
      linarith
  | cons now later ih =>
      obtain ⟨isFirst, ordered⟩ := List.pairwise_cons.mp ordered
      have next : Holds limit now (consume limit rate bucket now).1 := by
        apply Holds.consume isLimit isRate
        intro held isHeld
        obtain ⟨nonnegative, limited, refilled⟩ := holds held isHeld
        exact ⟨nonnegative, limited, refilled now List.mem_cons_self⟩
      rcases lt_or_ge now start with tooEarly | inWindow
      · rw [log, grants_cons, if_neg (by simp [not_le.mpr tooEarly]), Nat.add_zero]
        apply ih ordered
        rintro held ⟨⟩
        refine ⟨next.nonnegative, next.limited, ?_⟩
        rw [consume_lastRefill]
        exact isFirst
      · rcases lt_or_ge finish now with tooLate | inTime
        · rw [grants_of_later]
          · rw [Nat.cast_zero]
            linarith
          · intro other isOther
            rcases List.mem_cons.mp isOther with rfl | isOther
            · exact tooLate
            · exact lt_of_lt_of_le tooLate (isFirst other isOther)
        · have rest : (grants start finish
              (log limit rate (some (consume limit rate bucket now).1) later) : K) ≤ _ :=
            grants_le isLimit isRate _ start finish ordered
              ⟨next.nonnegative, next.limited, le_trans next.refilled inTime⟩
              (by rw [consume_lastRefill]; exact isFirst)
          have spent : (consume limit rate bucket now).1.tokens + _ = _ := consume_tokens bucket now
          have isMost : available limit rate bucket now ≤ limit := available_le bucket now
          have shorter : (finish - now) * rate ≤ (finish - start) * rate :=
            mul_le_mul_of_nonneg_right (by linarith) isRate
          rw [consume_lastRefill] at rest
          rw [log, grants_cons]
          push_cast
          split
          next granted =>
            simp only [Bool.and_eq_true] at granted
            rw [if_pos granted.1.1] at spent
            linarith
          next =>
            have isPart : (0 : K) ≤ if (consume limit rate bucket now).2 = true then 1 else 0 := by
              split <;> norm_num
            linarith

/-! ## Bursts -/

variable (limit rate now bucket) in
/-- As many checks at one time as there are tokens are all granted. -/
theorem burst
    {count : Nat}
    (enough : (count : K) + 1 ≤ available limit rate bucket now) :
    log limit rate bucket (List.replicate (count + 1) now) =
        List.replicate (count + 1) (now, true) ∧
      after limit rate bucket (List.replicate (count + 1) now) =
        some ⟨available limit rate bucket now - (count + 1), now⟩ := by
  induction count generalizing bucket with
  | zero =>
      have granted : ¬ available limit rate bucket now < 1 := by
        rw [Nat.cast_zero, zero_add] at enough
        exact not_lt.mpr enough
      have isMade := consume_of_granted granted
      simp [List.replicate, log, after, isMade]
  | succ count ih =>
      have some_left : (0 : K) ≤ count := Nat.cast_nonneg count
      push_cast at enough
      have granted : ¬ available limit rate bucket now < 1 := by
        rw [not_lt]
        linarith
      have isMade := consume_of_granted granted
      have isNext : available limit rate (some (consume limit rate bucket now).1) now =
          available limit rate bucket now - 1 := by
        have isMost : available limit rate bucket now ≤ limit := available_le bucket now
        rw [isMade, available]
        simp only [sub_self, zero_mul, add_zero]
        exact min_eq_right (by linarith)
      obtain ⟨isLog, isAfter⟩ := ih (some (consume limit rate bucket now).1)
        (by rw [isNext]; linarith)
      constructor
      · rw [List.replicate_succ, log, isLog, isMade, ← List.replicate_succ]
      · rw [List.replicate_succ, after, List.foldl_cons]
        refine isAfter.trans ?_
        rw [isNext]
        push_cast
        congr 2
        ring

variable (limit rate now) in
/-- A burst that leaves less than a token, and the check that takes the next one once
it is there, empty a new bucket. -/
theorem burst_and_next
    {count : Nat}
    (enough : (count : K) + 1 ≤ limit)
    {wait : K}
    (refills : limit - (count + 1) + wait * rate = 1) :
    log limit rate none (List.replicate (count + 1) now ++ [now + wait]) =
        List.replicate (count + 1) (now, true) ++ [(now + wait, true)] ∧
      after limit rate none (List.replicate (count + 1) now ++ [now + wait]) =
        some ⟨0, now + wait⟩ := by
  have some_left : (0 : K) ≤ count := Nat.cast_nonneg count
  obtain ⟨isLog, isAfter⟩ := burst limit rate now none enough
  have isOne : available limit rate
      (some ⟨available limit rate none now - (count + 1), now⟩) (now + wait) = 1 := by
    simp only [available, add_sub_cancel_left, refills]
    exact min_eq_right (by linarith)
  have isMade := consume_of_granted (not_lt.mpr isOne.ge)
  rw [isOne, sub_self] at isMade
  rw [log_append, after_append, isLog, isAfter]
  simp only [log, after, List.foldl_cons, List.foldl_nil, isMade, and_self]

/-- A bucket that was not used for as long as it takes to fill is full. -/
theorem available_of_idle
    (isRate : 0 ≤ rate)
    {held : Bucket K}
    (notNegative : 0 ≤ held.tokens)
    {idle : K}
    (fills : limit ≤ idle * rate)
    (isIdle : held.lastRefill + idle ≤ now) :
    available limit rate (some held) now = limit := by
  have gains : idle * rate ≤ (now - held.lastRefill) * rate :=
    mul_le_mul_of_nonneg_right (by linarith) isRate
  exact min_eq_left (by linarith)

end TokenBucket
