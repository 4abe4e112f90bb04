import Mathlib.Algebra.Ring.Nat
import Mathlib.Data.List.Basic
import Mathlib.Data.List.Flatten
import Mathlib.Algebra.BigOperators.Group.List.Basic

namespace Segmentation

/-!
# Segmentation into pieces of a fixed size

A sequence is cut into pieces of `limit` elements, the last of which may be
shorter but is not empty.  Sizes come first, since they are what a receiver
can check; the pieces themselves follow.
-/

/-- How many pieces `size` elements make. -/
def pieceCount (limit size : Nat) : Nat :=
  (size + limit - 1) / limit

/-- The length of one piece of `size` elements. -/
def pieceLength (limit size index : Nat) : Nat :=
  min limit (size - index * limit)

variable {limit size : Nat}

theorem lt_pieceCount_iff (positive : 0 < limit) {index : Nat} :
    index < pieceCount limit size ↔ index * limit < size := by
  unfold pieceCount
  rw [Nat.lt_iff_add_one_le, Nat.le_div_iff_mul_le positive, Nat.succ_mul]
  omega

theorem pieceCount_mul_ge (positive : 0 < limit) :
    size ≤ pieceCount limit size * limit := by
  have notBelow : ¬ pieceCount limit size * limit < size := fun below =>
    Nat.lt_irrefl _ ((lt_pieceCount_iff positive).mpr below)
  omega

/-- A piece before the last one is full. -/
theorem pieceLength_of_succ_lt
    (positive : 0 < limit)
    {index : Nat}
    (notLast : index + 1 < pieceCount limit size) :
    pieceLength limit size index = limit := by
  have below := (lt_pieceCount_iff positive).mp notLast
  unfold pieceLength
  rw [Nat.succ_mul] at below
  omega

theorem pieceLength_pos
    (positive : 0 < limit)
    {index : Nat}
    (inRange : index < pieceCount limit size) :
    0 < pieceLength limit size index := by
  have below := (lt_pieceCount_iff positive).mp inRange
  unfold pieceLength
  omega

/-- The first `count` pieces hold all elements they have room for. -/
theorem sum_pieceLength (limit size count : Nat) :
    ((List.range count).map (pieceLength limit size)).sum = min (count * limit) size := by
  induction count with
  | zero => simp
  | succ count inductionHypothesis =>
      rw [List.range_succ, List.map_append, List.sum_append, inductionHypothesis,
        List.map_singleton, List.sum_singleton, Nat.succ_mul]
      unfold pieceLength
      omega

/-- Pieces that hold all elements are all the pieces there are. -/
theorem count_eq_of_sum_ge
    (positive : 0 < limit)
    {count : Nat}
    (inRange : count ≤ pieceCount limit size)
    (holdsAll : size ≤ ((List.range count).map (pieceLength limit size)).sum) :
    count = pieceCount limit size := by
  rw [sum_pieceLength] at holdsAll
  rcases Nat.eq_or_lt_of_le inRange with all | fewer
  · exact all
  · have below := (lt_pieceCount_iff positive).mp fewer
    omega

/-! ## Pieces -/

variable {Element : Type} {content more tail rest last : List Element}
  {pieces full following : List (List Element)}

/-- These are the pieces of the content, in order. -/
structure IsSegmentation
    (limit : Nat)
    (content : List Element)
    (pieces : List (List Element)) : Prop where
  join : pieces.flatten = content
  lengths : pieces.map List.length =
    (List.range (pieceCount limit content.length)).map (pieceLength limit content.length)

/-- Full pieces of the content, and the tail that does not make another one. -/
structure Cut
    (limit : Nat)
    (content : List Element)
    (full : List (List Element))
    (tail : List Element) : Prop where
  join : full.flatten ++ tail = content
  full : ∀ piece ∈ full, piece.length = limit
  short : tail.length < limit

theorem Cut.nil (positive : 0 < limit) : Cut limit ([] : List Element) [] [] where
  join := rfl
  full := by simp
  short := positive

/-- Content that follows is cut together with the tail that was carried over. -/
theorem Cut.append
    (cut : Cut limit content full tail)
    (next : Cut limit (tail ++ more) following rest) :
    Cut limit (content ++ more) (full ++ following) rest where
  join := by
    rw [List.flatten_append, List.append_assoc, next.join, ← List.append_assoc, cut.join]
  full := by
    intro piece isPiece
    rcases List.mem_append.mp isPiece with isFull | isFollowing
    · exact cut.full piece isFull
    · exact next.full piece isFollowing
  short := next.short

theorem flatten_length_of_full (full : ∀ piece ∈ pieces, piece.length = limit) :
    pieces.flatten.length = pieces.length * limit := by
  induction pieces with
  | nil => simp
  | cons piece rest inductionHypothesis =>
      rw [List.flatten_cons, List.length_append, full piece List.mem_cons_self,
        inductionHypothesis fun other isOther => full other (List.mem_cons_of_mem _ isOther),
        List.length_cons, Nat.succ_mul, Nat.add_comm]

/-- The number of pieces, from the full ones and the length of the rest. -/
theorem pieceCount_mul_add
    (positive : 0 < limit)
    (count : Nat)
    {short : Nat}
    (bound : short < limit) :
    pieceCount limit (count * limit + short) = if short = 0 then count else count + 1 := by
  apply Nat.le_antisymm
  · by_contra fewer
    have inRange := (lt_pieceCount_iff positive).mp (Nat.lt_of_not_le fewer)
    split at inRange
    · omega
    · rw [Nat.succ_mul] at inRange
      omega
  · by_contra fewer
    have outOfRange : ¬ pieceCount limit (count * limit + short) <
        pieceCount limit (count * limit + short) := Nat.lt_irrefl _
    rw [lt_pieceCount_iff positive] at outOfRange
    have holdsAll := Nat.le_of_not_lt outOfRange
    have fewer := Nat.lt_of_not_le fewer
    split at fewer
    · have below := Nat.mul_le_mul_right limit (Nat.succ_le_of_lt fewer)
      rw [Nat.succ_mul] at below
      omega
    · have below := Nat.mul_le_mul_right limit (Nat.le_of_lt_succ fewer)
      omega

theorem Cut.lengths (cut : Cut limit content full tail) :
    full.map List.length =
      (List.range full.length).map (pieceLength limit content.length) := by
  have total : content.length = full.length * limit + tail.length := by
    rw [← cut.join, List.length_append, flatten_length_of_full cut.full]
  apply List.ext_getElem
  · simp
  · intro index inFull inRange
    rw [List.length_map] at inFull
    rw [List.getElem_map, List.getElem_map, List.getElem_range,
      cut.full _ (List.getElem_mem inFull), total]
    have below := Nat.mul_le_mul_right limit (Nat.succ_le_of_lt inFull)
    rw [Nat.succ_mul] at below
    unfold pieceLength
    omega

/-- Without a tail the full pieces are all the pieces. -/
theorem Cut.segmentation_of_nil (positive : 0 < limit) (cut : Cut limit content full []) :
    IsSegmentation limit content full where
  join := by simpa using cut.join
  lengths := by
    have total : content.length = full.length * limit + 0 := by
      rw [← cut.join, List.length_append, flatten_length_of_full cut.full]
      rfl
    rw [cut.lengths, total, pieceCount_mul_add positive _ positive, if_pos rfl]

/-- A tail that is left is the last piece. -/
theorem Cut.segmentation
    (positive : 0 < limit)
    (cut : Cut limit content full tail)
    (notEmpty : tail ≠ []) :
    IsSegmentation limit content (full ++ [tail]) where
  join := by
    rw [List.flatten_append, List.flatten_singleton]
    exact cut.join
  lengths := by
    have total : content.length = full.length * limit + tail.length := by
      rw [← cut.join, List.length_append, flatten_length_of_full cut.full]
    have isCount : pieceCount limit content.length = full.length + 1 := by
      rw [total, pieceCount_mul_add positive _ cut.short,
        if_neg fun isZero => notEmpty (List.length_eq_zero_iff.mp isZero)]
    rw [isCount, List.range_succ, List.map_append, List.map_append, cut.lengths,
      List.map_singleton, List.map_singleton]
    congr 2
    rw [total]
    have short := cut.short
    unfold pieceLength
    omega

namespace IsSegmentation

theorem length (segmentation : IsSegmentation limit content pieces) :
    pieces.length = pieceCount limit content.length := by
  simpa using congrArg List.length segmentation.lengths

theorem getElem_length
    (segmentation : IsSegmentation limit content pieces)
    {index : Nat}
    (inRange : index < pieces.length) :
    (pieces[index]).length = pieceLength limit content.length index := by
  have same := List.getElem_of_eq segmentation.lengths (i := index) (by simpa using inRange)
  simpa using same

/-- The pieces before an existing one fill their room. -/
theorem take_flatten_length
    (segmentation : IsSegmentation limit content pieces)
    (positive : 0 < limit)
    {index : Nat}
    (inRange : index < pieces.length) :
    (pieces.take index).flatten.length = index * limit := by
  have lengths : (pieces.take index).map List.length =
      (List.range index).map (pieceLength limit content.length) := by
    rw [List.map_take, segmentation.lengths, ← List.map_take, List.take_range,
      ← segmentation.length, Nat.min_eq_left (Nat.le_of_lt inRange)]
  rw [List.length_flatten, lengths, sum_pieceLength]
  rw [segmentation.length, lt_pieceCount_iff positive] at inRange
  omega

end IsSegmentation

end Segmentation
