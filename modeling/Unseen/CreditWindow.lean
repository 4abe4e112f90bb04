import Mathlib.Algebra.Ring.Nat
import Mathlib.Algebra.BigOperators.Group.List.Basic
import Mathlib.Algebra.Order.BigOperators.Group.List
import Mathlib.Algebra.Order.Group.Nat

/-!
# Windows of credit

A party hands items to another one that works them off and acknowledges each.
It starts with some credit: an item is handed over while there is credit and
waits otherwise, and an acknowledgement hands over the item that waited longest
or gives the credit back.  As long as nothing is acknowledged that was not
handed over, the credit is what is missing to the window's size, and items wait
only behind a full window.
-/

/-- Items handed over, acknowledged and waiting, each in order. -/
structure CreditWindow (Item : Type) where
  credit : Int
  posted : List Item
  acknowledged : List Item
  waiting : List Item

namespace CreditWindow

variable {Item : Type}

/-- A window before its first item. -/
def opened (size : Int) : CreditWindow Item where
  credit := size
  posted := []
  acknowledged := []
  waiting := []

/-- Every item taken so far, in order. -/
def taken (window : CreditWindow Item) : List Item :=
  window.posted ++ window.waiting

/-- Take one more item. -/
def take (window : CreditWindow Item) (item : Item) : CreditWindow Item :=
  if 0 < window.credit then
    { window with
      credit := window.credit - 1
      posted := window.posted ++ [item] }
  else
    { window with waiting := window.waiting ++ [item] }

/-- The other party acknowledges an item. -/
def acknowledge (window : CreditWindow Item) (item : Item) : CreditWindow Item :=
  match window.waiting with
  | [] =>
      { window with
        credit := window.credit + 1
        acknowledged := window.acknowledged ++ [item] }
  | next :: rest =>
      { window with
        posted := window.posted ++ [next]
        acknowledged := window.acknowledged ++ [item]
        waiting := rest }

/-- Each acknowledgement is for an item handed over, once. -/
def Acknowledges (window : CreditWindow Item) (item : Item) : Prop :=
  (window.acknowledged ++ [item]).Subperm window.posted

instance [DecidableEq Item] (window : CreditWindow Item) (item : Item) :
    Decidable (window.Acknowledges item) :=
  inferInstanceAs (Decidable (List.Subperm _ _))

/-- The credit accounts for the items that are not acknowledged. -/
structure Balanced (size : Int) (window : CreditWindow Item) : Prop where
  nonneg : 0 ≤ window.credit
  waits : window.waiting ≠ [] → window.credit = 0
  balance : window.credit + window.posted.length = size + window.acknowledged.length
  acknowledged : window.acknowledged.Subperm window.posted

variable {size : Int} {window : CreditWindow Item} {item : Item}

theorem balanced_opened (nonneg : 0 ≤ size) : (opened size : CreditWindow Item).Balanced size where
  nonneg := nonneg
  waits notEmpty := absurd rfl notEmpty
  balance := rfl
  acknowledged := .refl _

/-- What was handed over stays handed over. -/
theorem subperm_append {acknowledged posted : List Item}
    (subperm : acknowledged.Subperm posted) (more : List Item) :
    acknowledged.Subperm (posted ++ more) :=
  subperm.trans (List.sublist_append_left posted more).subperm

theorem Balanced.take (balanced : window.Balanced size) (item : Item) :
    (window.take item).Balanced size := by
  have nonneg := balanced.nonneg
  have balance := balanced.balance
  unfold CreditWindow.take
  split
  next credit =>
    refine ⟨Int.sub_nonneg_of_le credit, ?_, ?_, subperm_append balanced.acknowledged _⟩
    · intro notEmpty
      exact absurd (balanced.waits notEmpty) (Int.ne_of_gt credit)
    · rw [List.length_append, List.length_singleton]
      push_cast
      omega
  next noCredit =>
    refine ⟨nonneg, ?_, balance, balanced.acknowledged⟩
    intro _
    exact Int.le_antisymm (Int.not_lt.mp noCredit) nonneg

theorem Balanced.acknowledge
    (balanced : window.Balanced size)
    (legal : window.Acknowledges item) :
    (window.acknowledge item).Balanced size := by
  have nonneg := balanced.nonneg
  have balance := balanced.balance
  unfold CreditWindow.acknowledge
  split
  next isEmpty =>
    refine ⟨Int.le_add_one nonneg, ?_, ?_, legal⟩
    · intro notEmpty
      exact absurd isEmpty notEmpty
    · rw [List.length_append, List.length_singleton]
      push_cast
      omega
  next next rest isWaiting =>
    have noCredit : window.credit = 0 := by
      apply balanced.waits
      rw [isWaiting]
      exact List.cons_ne_nil next rest
    refine ⟨nonneg, fun _ => noCredit, ?_, subperm_append legal _⟩
    rw [List.length_append, List.length_append, List.length_singleton, List.length_singleton]
    push_cast
    omega

/-- Items are taken in the order in which they come. -/
theorem Balanced.taken_take (balanced : window.Balanced size) (item : Item) :
    (window.take item).taken = window.taken ++ [item] := by
  unfold CreditWindow.take taken
  split
  next credit =>
    have isEmpty : window.waiting = [] := by
      by_contra notEmpty
      rw [balanced.waits notEmpty] at credit
      exact Int.lt_irrefl 0 credit
    rw [isEmpty, List.append_nil, List.append_nil]
  next => exact (List.append_assoc _ _ _).symm

/-- An acknowledgement changes nothing about the order. -/
theorem taken_acknowledge (window : CreditWindow Item) (item : Item) :
    (window.acknowledge item).taken = window.taken := by
  unfold CreditWindow.acknowledge taken
  split
  next isEmpty => rfl
  next next rest isWaiting =>
    rw [isWaiting, List.append_assoc]
    rfl

theorem acknowledged_acknowledge (window : CreditWindow Item) (item : Item) :
    (window.acknowledge item).acknowledged = window.acknowledged ++ [item] := by
  unfold CreditWindow.acknowledge
  split <;> rfl

theorem acknowledged_take (window : CreditWindow Item) (item : Item) :
    (window.take item).acknowledged = window.acknowledged := by
  unfold CreditWindow.take
  split <;> rfl

/-- There is never more credit than at the start. -/
theorem Balanced.credit_le (balanced : window.Balanced size) : window.credit ≤ size := by
  have balance := balanced.balance
  have fewer := balanced.acknowledged.length_le
  omega

/-- Items wait only while a whole window of earlier ones is not acknowledged. -/
theorem Balanced.outstanding
    (balanced : window.Balanced size)
    (notEmpty : window.waiting ≠ []) :
    (window.posted.length : Int) = window.acknowledged.length + size := by
  have balance := balanced.balance
  rw [balanced.waits notEmpty] at balance
  omega

/-- What is acknowledged weighs no more than what was taken. -/
theorem Balanced.weight_le (balanced : window.Balanced size) (weight : Item → Nat) :
    (window.acknowledged.map weight).sum ≤ (window.taken.map weight).sum := by
  obtain ⟨same, isPerm, isSublist⟩ := balanced.acknowledged
  have isSame : (same.map weight).sum = (window.acknowledged.map weight).sum :=
    (isPerm.map weight).sum_eq
  rw [← isSame, taken, List.map_append, List.sum_append]
  exact Nat.le_trans ((isSublist.map weight).sum_le_sum fun _ _ => Nat.zero_le _)
    (Nat.le_add_right _ _)

end CreditWindow
