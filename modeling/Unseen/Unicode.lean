import Mathlib.Data.List.Basic

/-!
# Strings of UTF-16 code units and their UTF-8 form

A string is a sequence of code units and may hold lone surrogates.  Encoding
replaces each of those by U+FFFD; decoding is fatal on bytes that are not UTF-8
and drops a leading byte order mark.
-/

namespace Unseen.Unicode

/-- A string, as its UTF-16 code units. -/
abbrev CodeUnits := List UInt16

/-! ## Surrogates -/

/-- The first unit of a surrogate pair. -/
def isLeading (unit : UInt16) : Bool :=
  0xD800 ≤ unit && unit ≤ 0xDBFF

/-- The second unit of a surrogate pair. -/
def isTrailing (unit : UInt16) : Bool :=
  0xDC00 ≤ unit && unit ≤ 0xDFFF

/-- The number of the scalar value a surrogate pair stands for. -/
def pairValue (leading trailing : UInt16) : Nat :=
  0x10000 + (leading.toNat - 0xD800) * 0x400 + (trailing.toNat - 0xDC00)

/-- The scalar value of a unit outside a surrogate pair. -/
def unitScalar (unit : UInt16) : Char :=
  if isLeading unit || isTrailing unit then '\uFFFD' else Char.ofNat unit.toNat

/-- The scalar values of a string. -/
def scalars : CodeUnits → List Char
  | [] => []
  | [unit] => [unitScalar unit]
  | first :: second :: rest =>
      if isLeading first && isTrailing second then
        Char.ofNat (pairValue first second) :: scalars rest
      else
        unitScalar first :: scalars (second :: rest)

/-- The code units of a scalar value. -/
def codeUnits (scalar : Char) : CodeUnits :=
  if scalar.toNat < 0x10000 then
    [UInt16.ofNat scalar.toNat]
  else
    [UInt16.ofNat (0xD800 + (scalar.toNat - 0x10000) / 0x400),
      UInt16.ofNat (0xDC00 + (scalar.toNat - 0x10000) % 0x400)]

/-- Strings without a lone surrogate. -/
inductive WellFormed : CodeUnits → Prop where
  | nil : WellFormed []
  | unit {unit : UInt16} {rest : CodeUnits}
      (notLeading : isLeading unit = false)
      (notTrailing : isTrailing unit = false)
      (formed : WellFormed rest) : WellFormed (unit :: rest)
  | pair {leading trailing : UInt16} {rest : CodeUnits}
      (leads : isLeading leading = true)
      (trails : isTrailing trailing = true)
      (formed : WellFormed rest) : WellFormed (leading :: trailing :: rest)

theorem WellFormed.append
    {first second : CodeUnits}
    (formed : WellFormed first)
    (others : WellFormed second) :
    WellFormed (first ++ second) := by
  induction formed with
  | nil => exact others
  | unit notLeading notTrailing _ ih => exact .unit notLeading notTrailing ih
  | pair leads trails _ ih => exact .pair leads trails ih

/-- Units below the surrogates stand for themselves. -/
theorem not_surrogate_of_lt
    {unit : UInt16}
    (below : unit.toNat < 0xD800) :
    isLeading unit = false ∧ isTrailing unit = false := by
  have notLeading : ¬ (0xD800 : UInt16) ≤ unit := by
    rw [UInt16.le_iff_toNat_le]
    exact Nat.not_le_of_lt below
  have notTrailing : ¬ (0xDC00 : UInt16) ≤ unit := by
    rw [UInt16.le_iff_toNat_le]
    exact Nat.not_le_of_lt (Nat.lt_trans below (by decide))
  simp [isLeading, isTrailing, notLeading, notTrailing]

theorem WellFormed.of_lt
    {units : CodeUnits}
    (below : ∀ unit ∈ units, unit.toNat < 0xD800) :
    WellFormed units := by
  induction units with
  | nil => exact .nil
  | cons unit rest ih =>
      have isUnit := not_surrogate_of_lt (below unit List.mem_cons_self)
      exact .unit isUnit.1 isUnit.2 (ih fun other isOther => below other (List.mem_cons_of_mem _ isOther))

theorem scalars_cons
    {unit : UInt16}
    (notLeading : isLeading unit = false)
    (rest : CodeUnits) :
    scalars (unit :: rest) = unitScalar unit :: scalars rest := by
  cases rest with
  | nil => rfl
  | cons => simp [scalars, notLeading]

theorem toNat_ofNat {number : Nat} (isValid : number.isValidChar) :
    (Char.ofNat number).toNat = number := by
  rw [Char.ofNat, dif_pos isValid]
  rfl

theorem codeUnits_unitScalar
    {unit : UInt16}
    (notLeading : isLeading unit = false)
    (notTrailing : isTrailing unit = false) :
    codeUnits (unitScalar unit) = [unit] := by
  have isValid : unit.toNat.isValidChar := by
    have bound := unit.toNat_lt
    simp only [isLeading, isTrailing, Bool.and_eq_false_iff, decide_eq_false_iff_not,
      UInt16.le_iff_toNat_le, UInt16.reduceToNat] at notLeading notTrailing
    unfold Nat.isValidChar
    omega
  have isScalar : unitScalar unit = Char.ofNat unit.toNat := by
    simp [unitScalar, notLeading, notTrailing]
  have isNumber : (unitScalar unit).toNat = unit.toNat := by
    rw [isScalar, toNat_ofNat isValid]
  rw [codeUnits, isNumber, if_pos unit.toNat_lt, UInt16.ofNat_toNat]

theorem codeUnits_pairValue
    {leading trailing : UInt16}
    (leads : isLeading leading = true)
    (trails : isTrailing trailing = true) :
    codeUnits (Char.ofNat (pairValue leading trailing)) = [leading, trailing] := by
  simp only [isLeading, isTrailing, Bool.and_eq_true, decide_eq_true_eq,
    UInt16.le_iff_toNat_le, UInt16.reduceToNat] at leads trails
  have isValid : (pairValue leading trailing).isValidChar := by
    unfold Nat.isValidChar pairValue
    omega
  have isNumber : (Char.ofNat (pairValue leading trailing)).toNat = pairValue leading trailing :=
    toNat_ofNat isValid
  have isSecond : 0xD800 + (pairValue leading trailing - 0x10000) / 0x400 = leading.toNat := by
    unfold pairValue
    omega
  have isThird : 0xDC00 + (pairValue leading trailing - 0x10000) % 0x400 = trailing.toNat := by
    unfold pairValue
    omega
  have isLong : ¬ pairValue leading trailing < 0x10000 := by
    unfold pairValue
    omega
  rw [codeUnits, isNumber, if_neg isLong, isSecond, isThird, UInt16.ofNat_toNat,
    UInt16.ofNat_toNat]

/-- A string without lone surrogates is its scalar values. -/
theorem flatMap_codeUnits_scalars
    {text : CodeUnits}
    (formed : WellFormed text) :
    (scalars text).flatMap codeUnits = text := by
  induction formed with
  | nil => rfl
  | unit notLeading notTrailing _ ih =>
      rw [scalars_cons notLeading, List.flatMap_cons, codeUnits_unitScalar notLeading notTrailing, ih]
      rfl
  | @pair leading trailing rest leads trails _ ih =>
      have isScalars : scalars (leading :: trailing :: rest) =
          Char.ofNat (pairValue leading trailing) :: scalars rest := by
        simp [scalars, leads, trails]
      rw [isScalars, List.flatMap_cons, codeUnits_pairValue leads trails, ih]
      rfl

/-! ## UTF-8 -/

/-- `new TextEncoder().encode`. -/
def textEncode (text : CodeUnits) : List UInt8 :=
  (scalars text).flatMap String.utf8EncodeChar

/-- The scalar values after a byte order mark, when one leads. -/
def withoutByteOrderMark : List Char → List Char
  | '\uFEFF' :: rest => rest
  | text => text

/-- `new TextDecoder('utf-8', { fatal: true }).decode`. -/
def textDecode (bytes : List UInt8) : Option CodeUnits :=
  bytes.toByteArray.utf8Decode?.map fun decoded =>
    (withoutByteOrderMark decoded.toList).flatMap codeUnits

/-- What is encoded decodes to itself, up to lone surrogates and a byte order mark. -/
theorem textDecode_textEncode
    {text : CodeUnits}
    (formed : WellFormed text)
    (noMark : withoutByteOrderMark (scalars text) = scalars text) :
    textDecode (textEncode text) = some text := by
  have isArray : (textEncode text).toByteArray = (scalars text).utf8Encode := rfl
  rw [textDecode, isArray, List.utf8Decode?_utf8Encode, Option.map_some, noMark,
    flatMap_codeUnits_scalars formed]

end Unseen.Unicode
