import Mathlib.Data.Nat.Digits.Defs
import Mathlib.Tactic.IntervalCases
import Unseen.JsonRecord
import Unseen.Wire

namespace Unseen

/-!
# Keys of the limiter by address

IPv4 addresses are keyed as they are written, IPv6 addresses by their first 64
bits.  `isIP` and `toLowerCase` come from the runtime.
-/

/-! ## Splitting at a doubled separator -/

section Split

variable {α : Type} [DecidableEq α]

/-- The parts of a list between separators that come two at a time. -/
def splitDoubled (separator : α) : List α → List (List α)
  | [] => [[]]
  | [unit] => [[unit]]
  | first :: second :: rest =>
      if first = separator ∧ second = separator then
        [] :: splitDoubled separator rest
      else
        (splitDoubled separator (second :: rest)).modifyHead (first :: ·)

variable {separator : α}

theorem splitDoubled_cons
    {unit : α}
    (isOther : unit ≠ separator)
    (rest : List α) :
    splitDoubled separator (unit :: rest) =
      (splitDoubled separator rest).modifyHead (unit :: ·) := by
  cases rest with
  | nil => rfl
  | cons second rest => rw [splitDoubled, if_neg fun both => isOther both.1]

theorem splitDoubled_separator
    {unit : α}
    (isOther : unit ≠ separator)
    (rest : List α) :
    splitDoubled separator (separator :: unit :: rest) =
      (splitDoubled separator (unit :: rest)).modifyHead (separator :: ·) := by
  rw [splitDoubled, if_neg fun both => isOther both.2]

omit [DecidableEq α] in
theorem modifyHead_cons_append (first : α) (part : List α) (parts : List (List α)) :
    (parts.modifyHead (part ++ ·)).modifyHead (first :: ·) =
      parts.modifyHead (first :: part ++ ·) := by
  cases parts <;> rfl

/-- A part without separators goes to what follows. -/
theorem splitDoubled_append
    {part : List α}
    (isPart : separator ∉ part)
    (rest : List α) :
    splitDoubled separator (part ++ rest) =
      (splitDoubled separator rest).modifyHead (part ++ ·) := by
  induction part with
  | nil => cases isSplit : splitDoubled separator rest <;> simp [isSplit]
  | cons unit part ih =>
      have isOther : unit ≠ separator := fun same => isPart (same ▸ List.mem_cons_self)
      rw [List.cons_append, splitDoubled_cons isOther,
        ih fun isMember => isPart (List.mem_cons_of_mem _ isMember), modifyHead_cons_append]

/-- Parts joined by single separators stay together. -/
theorem splitDoubled_intercalate
    {parts : List (List α)}
    (areParts : ∀ part ∈ parts, part ≠ [] ∧ separator ∉ part)
    (rest : List α) :
    splitDoubled separator ([separator].intercalate parts ++ rest) =
      (splitDoubled separator rest).modifyHead ([separator].intercalate parts ++ ·) := by
  induction parts with
  | nil => cases isSplit : splitDoubled separator rest <;> simp [isSplit]
  | cons part parts ih =>
      have isPart := areParts part List.mem_cons_self
      have others := ih fun other isOther => areParts other (List.mem_cons_of_mem _ isOther)
      cases parts with
      | nil =>
          rw [List.intercalate_singleton]
          exact splitDoubled_append isPart.2 rest
      | cons next parts =>
          obtain ⟨first, units, rfl⟩ := List.exists_cons_of_ne_nil
            (areParts next (List.mem_cons_of_mem _ List.mem_cons_self)).1
          have isNext := areParts (first :: units) (List.mem_cons_of_mem _ List.mem_cons_self)
          have isOther : first ≠ separator := fun same => isNext.2 (same ▸ List.mem_cons_self)
          have leads : ∃ joined,
              [separator].intercalate ((first :: units) :: parts) = first :: joined := by
            cases parts with
            | nil => exact ⟨units, List.intercalate_singleton⟩
            | cons _ _ => exact ⟨_, List.intercalate_cons_cons⟩
          obtain ⟨joined, isJoined⟩ := leads
          rw [isJoined] at others
          rw [List.intercalate_cons_cons, isJoined, List.append_assoc, List.append_assoc,
            splitDoubled_append isPart.2, List.singleton_append, List.cons_append,
            splitDoubled_separator isOther, ← List.cons_append, others]
          cases splitDoubled separator rest with
          | nil => rfl
          | cons head parts => simp

/-- Parts on both sides of a doubled separator. -/
theorem splitDoubled_doubled
    {parts others : List (List α)}
    (areParts : ∀ part ∈ parts ++ others, part ≠ [] ∧ separator ∉ part) :
    splitDoubled separator
        ([separator].intercalate parts ++ separator :: separator ::
          [separator].intercalate others) =
      [[separator].intercalate parts, [separator].intercalate others] := by
  have alone : splitDoubled separator ([separator].intercalate others ++ []) = _ :=
    splitDoubled_intercalate (fun part isPart => areParts part (List.mem_append_right _ isPart)) []
  rw [List.append_nil] at alone
  rw [splitDoubled_intercalate fun part isPart => areParts part (List.mem_append_left _ isPart),
    splitDoubled, if_pos ⟨rfl, rfl⟩, alone]
  simp [splitDoubled]

omit [DecidableEq α] in
theorem map_intercalate {β : Type} (f : α → β) (parts : List (List α)) :
    ([separator].intercalate parts).map f = [f separator].intercalate (parts.map (List.map f)) := by
  induction parts with
  | nil => rfl
  | cons part parts ih =>
      cases parts with
      | nil => rw [List.map_singleton, List.intercalate_singleton, List.intercalate_singleton]
      | cons next parts =>
          rw [List.map_cons] at ih
          rw [List.map_cons, List.map_cons, List.intercalate_cons_cons,
            List.intercalate_cons_cons, List.map_append, List.map_append, ih]
          rfl

omit [DecidableEq α] in
theorem mem_intercalate
    {unit : α}
    {parts : List (List α)}
    (isMember : unit ∈ [separator].intercalate parts) :
    unit = separator ∨ ∃ part ∈ parts, unit ∈ part := by
  induction parts with
  | nil => cases isMember
  | cons part parts ih =>
      cases parts with
      | nil =>
          rw [List.intercalate_singleton] at isMember
          exact .inr ⟨part, List.mem_cons_self, isMember⟩
      | cons next parts =>
          rw [List.intercalate_cons_cons, List.append_assoc, List.mem_append] at isMember
          rcases isMember with inPart | inRest
          · exact .inr ⟨part, List.mem_cons_self, inPart⟩
          · rcases List.mem_append.mp inRest with isSeparator | inRest
            · exact .inl (List.mem_singleton.mp isSeparator)
            · rcases ih inRest with isSeparator | ⟨other, isOther, inOther⟩
              · exact .inl isSeparator
              · exact .inr ⟨other, List.mem_cons_of_mem _ isOther, inOther⟩

end Split

/-! ## The key of an address -/

/-- `isIP` of `node:net`, and `toLowerCase` of strings. -/
structure Runtime where
  isIP : Text → Nat
  toLowerCase : Text → Text

/-- `groupSpan` -/
def groupSpan (groups : List Text) : Nat :=
  groups.foldl (fun total group => total + if Json.fullStop ∈ group then 2 else 1) 0

/-- What `.` of a regular expression matches: all but line terminators. -/
def matchesDot (unit : UInt16) : Bool :=
  unit ≠ 0x0A && unit ≠ 0x0D && unit ≠ 0x2028 && unit ≠ 0x2029

/-- `group.replace(/^0+(?=.)/u, '')` -/
def stripZeros : Text → Text
  | [] => []
  | [unit] => [unit]
  | first :: second :: rest =>
      if first = 0x30 ∧ matchesDot second = true then
        stripZeros (second :: rest)
      else
        first :: second :: rest

/-- The text of `::/64`. -/
def prefixMark : Text :=
  [Json.colon, Json.colon, 0x2F, 0x36, 0x34]

/-- `headGroups` and `tailGroups` -/
def groupsOf (text : Text) : List Text :=
  if text = [] then [] else text.splitOn Json.colon

/-- `ipv6Prefix64` -/
def ipv6Prefix64 (runtime : Runtime) (ip : Text) : Text :=
  let parts := (splitDoubled Json.colon (runtime.toLowerCase ip)).take 2
  let head := parts[0]?.getD []
  let tail := parts[1]?
  let headGroups := groupsOf head
  let tailGroups := groupsOf (tail.getD [])
  let groups :=
    if tail = none then
      headGroups
    else
      headGroups ++ List.replicate (8 - groupSpan headGroups - groupSpan tailGroups) [0x30] ++
        tailGroups
  [Json.colon].intercalate ((groups.take 4).map stripZeros) ++ prefixMark

/-- `bucketKey` -/
def bucketKey (runtime : Runtime) (ip : Text) : Text :=
  if runtime.isIP ip = 6 then ipv6Prefix64 runtime ip else ip

/-! ## Addresses as they are written -/

/-- The hexadecimal digits, in either case. -/
def hexUnits : List UInt16 :=
  [0x30, 0x31, 0x32, 0x33, 0x34, 0x35, 0x36, 0x37, 0x38, 0x39,
    0x41, 0x42, 0x43, 0x44, 0x45, 0x46, 0x61, 0x62, 0x63, 0x64, 0x65, 0x66]

/-- One to four hexadecimal digits. -/
structure IsGroup (group : Text) : Prop where
  notEmpty : group ≠ []
  isShort : group.length ≤ 4
  areDigits : ∀ unit ∈ group, unit ∈ hexUnits

/-- The four octets of an IPv4 address. -/
structure Ipv4Text where
  first : UInt8
  second : UInt8
  third : UInt8
  fourth : UInt8

/-- Octets are written in Json.decimal, with dots between them. -/
def Ipv4Text.text (address : Ipv4Text) : Text :=
  [Json.fullStop].intercalate
    [ Json.decimal address.first.toNat,
      Json.decimal address.second.toNat,
      Json.decimal address.third.toNat,
      Json.decimal address.fourth.toNat ]

/-- The two groups of an embedded IPv4 address. -/
def Ipv4Text.values (address : Ipv4Text) : List Nat :=
  [ address.first.toNat * 0x100 + address.second.toNat,
    address.third.toNat * 0x100 + address.fourth.toNat ]

/-- An IPv6 address as it is written: the groups before `::` and those after it,
or all groups where there is no `::`, and an IPv4 address in place of the last
two groups. -/
structure Ipv6Text where
  head : List Text
  tail : Option (List Text)
  dotted : Option Ipv4Text
  areGroups : ∀ group ∈ head ++ tail.getD [], IsGroup group
  isWhole : tail = none → head.length + 2 * dotted.toList.length = 8
  leavesOut : ∀ groups ∈ tail, head.length + groups.length + 2 * dotted.toList.length ≤ 7

namespace Ipv6Text

def dottedGroups (address : Ipv6Text) : List Text :=
  address.dotted.toList.map Ipv4Text.text

def text (address : Ipv6Text) : Text :=
  match address.tail with
  | none => [Json.colon].intercalate (address.head ++ address.dottedGroups)
  | some tail =>
      [Json.colon].intercalate address.head ++ Json.colon :: Json.colon ::
        [Json.colon].intercalate (tail ++ address.dottedGroups)

end Ipv6Text

/-- The value of a hexadecimal digit. -/
def hexDigitValue (unit : UInt16) : Nat :=
  (Json.hexValue unit).getD 0

/-- The value of hexadecimal digits. -/
def groupValue (group : Text) : Nat :=
  Nat.ofDigits 16 (group.reverse.map hexDigitValue)

namespace Ipv6Text

/-- The eight groups of the address. -/
def values (address : Ipv6Text) : List Nat :=
  let dotted := address.dotted.toList.flatMap Ipv4Text.values
  match address.tail with
  | none => address.head.map groupValue ++ dotted
  | some tail =>
      address.head.map groupValue ++
        List.replicate (8 - address.head.length - tail.length - dotted.length) 0 ++
        (tail.map groupValue ++ dotted)

/-- The address, as a number of 128 bits. -/
def address (address : Ipv6Text) : Nat :=
  Nat.ofDigits 0x10000 address.values.reverse

end Ipv6Text

/-! ## What the runtime promises -/

/-- `toLowerCase` of an ASCII code unit. -/
def lowerUnit (unit : UInt16) : UInt16 :=
  if 0x41 ≤ unit ∧ unit ≤ 0x5A then unit + 0x20 else unit

/-- `isIP` knows the two kinds of addresses, and ASCII texts are lowered letter by
letter. -/
structure Runtime.Documented (runtime : Runtime) : Prop where
  ipv6 : ∀ address : Ipv6Text, runtime.isIP address.text = 6
  ipv4 : ∀ address : Ipv4Text, runtime.isIP address.text = 4
  lowers : ∀ text : Text, (∀ unit ∈ text, unit < 0x80) →
    runtime.toLowerCase text = text.map lowerUnit

/-! ## Groups and their values -/

/-- Hexadecimal digits in lower case. -/
def lowerUnits : List UInt16 :=
  [0x30, 0x31, 0x32, 0x33, 0x34, 0x35, 0x36, 0x37, 0x38, 0x39,
    0x61, 0x62, 0x63, 0x64, 0x65, 0x66]

/-- A group in lower case. -/
def lower (group : Text) : Text :=
  group.map lowerUnit

theorem lowerUnit_mem : ∀ unit ∈ hexUnits, lowerUnit unit ∈ lowerUnits :=
  List.forall_iff_forall_mem.mp (by decide)

theorem hexDigitValue_lower :
    ∀ unit ∈ hexUnits, hexDigitValue (lowerUnit unit) = hexDigitValue unit :=
  List.forall_iff_forall_mem.mp (by decide)

theorem hexDigitValue_lt : ∀ unit ∈ lowerUnits, hexDigitValue unit < 16 :=
  List.forall_iff_forall_mem.mp (by decide)

theorem hexDigit_hexDigitValue :
    ∀ unit ∈ lowerUnits, hexDigit (hexDigitValue unit) = unit :=
  List.forall_iff_forall_mem.mp (by decide)

theorem hexDigitValue_eq_zero : ∀ unit ∈ lowerUnits, hexDigitValue unit = 0 → unit = 0x30 :=
  List.forall_iff_forall_mem.mp (by decide)

theorem matchesDot_of_mem : ∀ unit ∈ lowerUnits, matchesDot unit = true :=
  List.forall_iff_forall_mem.mp (by decide)

theorem not_mark_of_mem : ∀ unit ∈ lowerUnits, unit ≠ Json.colon ∧ unit ≠ Json.fullStop :=
  List.forall_iff_forall_mem.mp (by decide)

theorem lt_of_mem_hexUnits : ∀ unit ∈ hexUnits, unit < 0x80 :=
  List.forall_iff_forall_mem.mp (by decide)

theorem groupValue_zero (rest : Text) : groupValue (0x30 :: rest) = groupValue rest := by
  have isZero : hexDigitValue 0x30 = 0 := by decide
  simp [groupValue, isZero, Nat.ofDigits_append_zero]

/-- Zeros in front do not count. -/
theorem groupValue_stripZeros (group : Text) :
    groupValue (stripZeros group) = groupValue group := by
  induction group using stripZeros.induct with
  | case1 => rfl
  | case2 unit => rfl
  | case3 first second rest isZero ih =>
      rw [stripZeros, if_pos isZero, ih, isZero.1, groupValue_zero]
  | case4 first second rest notZero =>
      rw [stripZeros, if_neg notZero]

theorem groupValue_lower {group : Text} (areDigits : ∀ unit ∈ group, unit ∈ hexUnits) :
    groupValue (lower group) = groupValue group := by
  have same : (lower group).map hexDigitValue = group.map hexDigitValue := by
    rw [lower, List.map_map]
    exact List.map_congr_left fun unit isUnit => hexDigitValue_lower unit (areDigits unit isUnit)
  rw [groupValue, groupValue, List.map_reverse, List.map_reverse, same]

theorem stripZeros_subset (group : Text) : stripZeros group ⊆ group := by
  induction group using stripZeros.induct with
  | case1 => exact List.Subset.refl _
  | case2 unit => exact List.Subset.refl _
  | case3 first second rest isZero ih =>
      rw [stripZeros, if_pos isZero]
      exact List.subset_cons_of_subset _ ih
  | case4 first second rest notZero =>
      rw [stripZeros, if_neg notZero]
      exact List.Subset.refl _

/-- The shortest digits of a value. -/
def shortest (value : Nat) : Text :=
  ((if value = 0 then [0] else Nat.digits 16 value).reverse).map hexDigit

/-- A group without zeros in front is made of the shortest digits of its value. -/
theorem stripZeros_eq_shortest
    {group : Text}
    (notEmpty : group ≠ [])
    (areDigits : ∀ unit ∈ group, unit ∈ lowerUnits) :
    stripZeros group = shortest (groupValue group) := by
  induction group using stripZeros.induct with
  | case1 => exact absurd rfl notEmpty
  | case2 unit =>
      have each : ∀ unit ∈ lowerUnits, [unit] = shortest (groupValue [unit]) :=
        List.forall_iff_forall_mem.mp (by decide)
      exact each unit (areDigits unit List.mem_cons_self)
  | case3 first second rest isZero ih =>
      rw [stripZeros, if_pos isZero, isZero.1, groupValue_zero]
      exact ih (by simp) fun unit isUnit => areDigits unit (List.mem_cons_of_mem _ isUnit)
  | case4 first second rest notZero =>
      have isSecond := areDigits second (by simp)
      have isFirst : first ≠ 0x30 := fun same =>
        notZero ⟨same, matchesDot_of_mem second isSecond⟩
      have notZeroDigit : hexDigitValue first ≠ 0 := fun isZero =>
        isFirst (hexDigitValue_eq_zero first (areDigits first List.mem_cons_self) isZero)
      have readBack : Nat.digits 16 (groupValue (first :: second :: rest)) =
          ((first :: second :: rest).reverse.map hexDigitValue) := by
        refine Nat.digits_ofDigits 16 (by decide) _ ?_ ?_
        · intro digit isDigit
          obtain ⟨unit, isUnit, rfl⟩ := List.mem_map.mp isDigit
          exact hexDigitValue_lt unit (areDigits unit (List.mem_reverse.mp isUnit))
        · intro notEmpty
          simpa using notZeroDigit
      have notNil : Nat.digits 16 (groupValue (first :: second :: rest)) ≠ [] := by
        rw [readBack]
        simp
      have isValue : groupValue (first :: second :: rest) ≠ 0 := by
        intro isZero
        rw [isZero] at notNil
        exact notNil (Nat.digits_zero 16)
      rw [stripZeros, if_neg notZero, shortest, if_neg isValue, readBack]
      simp only [List.map_reverse, List.reverse_reverse, List.map_map]
      refine (List.map_id _).symm.trans (List.map_congr_left fun unit isUnit => ?_)
      exact (hexDigit_hexDigitValue unit (areDigits unit isUnit)).symm

/-- Groups lose their zeros alike if and only if they have the same values. -/
theorem map_stripZeros_inj
    {groups others : List Text}
    (areGroups : ∀ group ∈ groups ++ others, group ≠ [] ∧ ∀ unit ∈ group, unit ∈ lowerUnits) :
    groups.map stripZeros = others.map stripZeros ↔
      groups.map groupValue = others.map groupValue := by
  have stripped : ∀ part : List Text,
      (∀ group ∈ part, group ≠ [] ∧ ∀ unit ∈ group, unit ∈ lowerUnits) →
        part.map stripZeros = (part.map groupValue).map shortest := by
    intro part areGroups
    rw [List.map_map]
    exact List.map_congr_left fun group isGroup =>
      stripZeros_eq_shortest (areGroups group isGroup).1 (areGroups group isGroup).2
  have valued : ∀ part : List Text,
      (part.map stripZeros).map groupValue = part.map groupValue := by
    intro part
    rw [List.map_map]
    exact List.map_congr_left fun group _ => groupValue_stripZeros group
  constructor
  · intro same
    rw [← valued groups, same, valued others]
  · intro same
    rw [stripped groups fun group isGroup => areGroups group (List.mem_append_left _ isGroup),
      stripped others fun group isGroup => areGroups group (List.mem_append_right _ isGroup), same]

/-! ## IPv4 texts -/

theorem isDigit_of_mem_text {address : Ipv4Text} {unit : UInt16} (isUnit : unit ∈ address.text) :
    unit = Json.fullStop ∨ Json.isDigit unit = true := by
  rcases mem_intercalate isUnit with isDot | ⟨octet, isOctet, isUnit⟩
  · exact .inl isDot
  · refine .inr ?_
    simp only [List.mem_cons, List.not_mem_nil, or_false] at isOctet
    rcases isOctet with rfl | rfl | rfl | rfl
    all_goals exact Json.isDigit_of_mem_decimal isUnit

/-- The units of an IPv4 text are no colons and no letters. -/
theorem mem_ipv4Text {address : Ipv4Text} {unit : UInt16} (isUnit : unit ∈ address.text) :
    unit ≠ Json.colon ∧ unit < 0x80 ∧ lowerUnit unit = unit := by
  rcases isDigit_of_mem_text isUnit with rfl | isDigit
  · decide
  · simp only [Json.isDigit, Bool.and_eq_true, decide_eq_true_eq, UInt16.le_iff_toNat_le] at isDigit
    obtain ⟨low, high⟩ := isDigit
    have low : 0x30 ≤ unit.toNat := low
    have high : unit.toNat ≤ 0x39 := high
    refine ⟨?_, ?_, if_neg ?_⟩
    · rintro rfl
      exact absurd high (by decide)
    · rw [UInt16.lt_iff_toNat_lt]
      exact lt_of_le_of_lt high (by decide)
    · rintro ⟨letter, -⟩
      have letter : 0x41 ≤ unit.toNat := UInt16.le_iff_toNat_le.mp letter
      omega

theorem lower_ipv4Text (address : Ipv4Text) : lower address.text = address.text :=
  (List.map_congr_left fun _ isUnit => (mem_ipv4Text isUnit).2.2).trans (List.map_id _)

theorem fullStop_mem_ipv4Text (address : Ipv4Text) : Json.fullStop ∈ address.text := by
  rw [Ipv4Text.text, List.intercalate_cons_cons]
  simp

/-! ## The groups of an address -/

namespace Ipv6Text

variable (address : Ipv6Text)

/-- The groups that are written in hexadecimal, and those `::` stands for. -/
def written : List Text :=
  match address.tail with
  | none => address.head
  | some tail =>
      address.head ++
        List.replicate (8 - address.head.length - tail.length - 2 * address.dotted.toList.length)
          [0x30] ++
        tail

theorem isGroup_zero : IsGroup [0x30] :=
  ⟨by decide, by decide, List.forall_iff_forall_mem.mp (by decide)⟩

theorem isGroup_of_mem_written {group : Text} (isMember : group ∈ address.written) :
    IsGroup group := by
  have areGroups := address.areGroups group
  unfold written at isMember
  cases isTail : address.tail with
  | none =>
      rw [isTail] at isMember
      exact areGroups (List.mem_append_left _ isMember)
  | some tail =>
      rw [isTail] at isMember areGroups
      rcases List.mem_append.mp isMember with isMember | inTail
      · rcases List.mem_append.mp isMember with inHead | isZero
        · exact areGroups (List.mem_append_left _ inHead)
        · exact List.eq_of_mem_replicate isZero ▸ isGroup_zero
      · exact areGroups (List.mem_append_right _ inTail)

theorem length_written : address.written.length + 2 * address.dotted.toList.length = 8 := by
  have isWhole := address.isWhole
  have leavesOut := address.leavesOut
  unfold written
  cases isTail : address.tail with
  | none => exact isWhole isTail
  | some tail =>
      have isShort := leavesOut tail isTail
      simp only [List.length_append, List.length_replicate]
      omega

theorem four_le_length : 4 ≤ address.written.length := by
  have isLength := address.length_written
  have isDotted : address.dotted.toList.length ≤ 1 := by cases address.dotted <;> simp
  omega

theorem values_eq :
    address.values =
      address.written.map groupValue ++ address.dotted.toList.flatMap Ipv4Text.values := by
  have isLength : (address.dotted.toList.flatMap Ipv4Text.values).length =
      2 * address.dotted.toList.length := by
    cases address.dotted <;> rfl
  unfold values written
  cases address.tail with
  | none => rfl
  | some tail =>
      have isZero : groupValue [0x30] = 0 := by decide
      simp only [isLength, List.map_append, List.map_replicate, isZero, List.append_assoc]

theorem groupValue_lt {group : Text} (isGroup : IsGroup group) : groupValue group < 0x10000 := by
  have areDigits : ∀ digit ∈ group.reverse.map hexDigitValue, digit < 16 := by
    intro digit isDigit
    obtain ⟨unit, isUnit, rfl⟩ := List.mem_map.mp isDigit
    have isHex := isGroup.areDigits unit (List.mem_reverse.mp isUnit)
    rw [← hexDigitValue_lower unit isHex]
    exact hexDigitValue_lt _ (lowerUnit_mem unit isHex)
  calc groupValue group
      < 16 ^ (group.reverse.map hexDigitValue).length :=
        Nat.ofDigits_lt_base_pow_length (by decide) areDigits
    _ ≤ 16 ^ 4 := by
        refine Nat.pow_le_pow_right (by decide) ?_
        rw [List.length_map, List.length_reverse]
        exact isGroup.isShort

theorem values_lt {value : Nat} (isValue : value ∈ address.values) : value < 0x10000 := by
  rw [values_eq, List.mem_append] at isValue
  rcases isValue with isWritten | isDotted
  · obtain ⟨group, isMember, rfl⟩ := List.mem_map.mp isWritten
    exact groupValue_lt (address.isGroup_of_mem_written isMember)
  · obtain ⟨dotted, -, isValue⟩ := List.mem_flatMap.mp isDotted
    have first := dotted.first.toNat_lt
    have second := dotted.second.toNat_lt
    have third := dotted.third.toNat_lt
    have fourth := dotted.fourth.toNat_lt
    simp only [Ipv4Text.values, List.mem_cons, List.not_mem_nil, or_false] at isValue
    omega

/-- The first half of an address has the values of its first four groups. -/
theorem address_div :
    address.address / 2 ^ 64 =
      Nat.ofDigits 0x10000 ((address.written.take 4).map groupValue).reverse := by
  have isLength : address.values.length = 8 := by
    have isWritten := address.length_written
    have isDotted : (address.dotted.toList.flatMap Ipv4Text.values).length =
        2 * address.dotted.toList.length := by
      cases address.dotted <;> rfl
    rw [values_eq, List.length_append, List.length_map]
    omega
  have firstFour : address.values.take 4 = (address.written.take 4).map groupValue := by
    have isLong := address.four_le_length
    rw [values_eq, List.take_append_of_le_length (by rw [List.length_map]; exact isLong),
      List.map_take]
  have isHalf : (2 : Nat) ^ 64 = 0x10000 ^ 4 := by norm_num
  have areValues : ∀ value ∈ address.values.reverse, value < 0x10000 := fun value isValue =>
    address.values_lt (List.mem_reverse.mp isValue)
  rw [Ipv6Text.address, isHalf, Nat.ofDigits_div_pow_eq_ofDigits_drop 4 (by decide) _ areValues,
    List.drop_reverse, isLength, firstFour]

end Ipv6Text

/-- Addresses share their first half if and only if their first four groups have the
same values. -/
theorem address_div_eq_iff (first second : Ipv6Text) :
    first.address / 2 ^ 64 = second.address / 2 ^ 64 ↔
      (first.written.take 4).map groupValue = (second.written.take 4).map groupValue := by
  have areValues : ∀ address : Ipv6Text,
      ∀ value ∈ ((address.written.take 4).map groupValue).reverse, value < 0x10000 := by
    intro address value isValue
    obtain ⟨group, isGroup, rfl⟩ := List.mem_map.mp (List.mem_reverse.mp isValue)
    exact Ipv6Text.groupValue_lt (address.isGroup_of_mem_written (List.mem_of_mem_take isGroup))
  have isLength : ∀ address : Ipv6Text,
      ((address.written.take 4).map groupValue).reverse.length = 4 := by
    intro address
    rw [List.length_reverse, List.length_map, List.length_take]
    exact min_eq_left address.four_le_length
  rw [Ipv6Text.address_div, Ipv6Text.address_div]
  constructor
  · intro same
    exact List.reverse_injective (Nat.ofDigits_inj_of_len_eq (by decide)
      ((isLength first).trans (isLength second).symm) (areValues first) (areValues second) same)
  · intro same
    rw [same]

/-! ## The key of a written address -/

theorem foldl_groupSpan (groups : List Text) (total : Nat) :
    groups.foldl (fun total group => total + if Json.fullStop ∈ group then 2 else 1) total =
      total + groupSpan groups := by
  induction groups generalizing total with
  | nil => rfl
  | cons group groups ih =>
      rw [groupSpan, List.foldl_cons, List.foldl_cons, ih, ih (0 + _)]
      omega

theorem groupSpan_append (groups others : List Text) :
    groupSpan (groups ++ others) = groupSpan groups + groupSpan others := by
  rw [groupSpan, List.foldl_append, foldl_groupSpan others]
  rfl

theorem groupSpan_of_plain
    {groups : List Text}
    (arePlain : ∀ group ∈ groups, Json.fullStop ∉ group) :
    groupSpan groups = groups.length := by
  induction groups with
  | nil => rfl
  | cons group groups ih =>
      rw [← List.singleton_append, groupSpan_append,
        ih fun other isOther => arePlain other (List.mem_cons_of_mem _ isOther), groupSpan,
        List.foldl_cons, if_neg (arePlain group List.mem_cons_self), List.length_append]
      rfl

theorem groupsOf_intercalate
    {groups : List Text}
    (areGroups : ∀ group ∈ groups, group ≠ [] ∧ Json.colon ∉ group) :
    groupsOf ([Json.colon].intercalate groups) = groups := by
  cases groups with
  | nil => rfl
  | cons group groups =>
      have notEmpty : [Json.colon].intercalate (group :: groups) ≠ [] := by
        cases groups with
        | nil =>
            rw [List.intercalate_singleton]
            exact (areGroups group List.mem_cons_self).1
        | cons next groups =>
            rw [List.intercalate_cons_cons]
            simp
      rw [groupsOf, if_neg notEmpty,
        List.splitOn_intercalate Json.colon (fun other isOther => (areGroups other isOther).2)
          (by simp)]

theorem isPart_lower {group : Text} (isGroup : IsGroup group) :
    lower group ≠ [] ∧ Json.colon ∉ lower group ∧ Json.fullStop ∉ lower group ∧
      ∀ unit ∈ lower group, unit ∈ lowerUnits := by
  have areLower : ∀ unit ∈ lower group, unit ∈ lowerUnits := by
    intro unit isUnit
    obtain ⟨original, isOriginal, rfl⟩ := List.mem_map.mp isUnit
    exact lowerUnit_mem original (isGroup.areDigits original isOriginal)
  refine ⟨?_, ?_, ?_, areLower⟩
  · simpa [lower] using isGroup.notEmpty
  · exact fun isColon => (not_mark_of_mem Json.colon (areLower Json.colon isColon)).1 rfl
  · exact fun isStop => (not_mark_of_mem Json.fullStop (areLower Json.fullStop isStop)).2 rfl

namespace Ipv6Text

variable (address : Ipv6Text)

theorem map_dottedGroups : address.dottedGroups.map lower = address.dottedGroups := by
  rw [dottedGroups, List.map_map]
  exact List.map_congr_left fun dotted _ => lower_ipv4Text dotted

theorem isPart_dotted {group : Text} (isMember : group ∈ address.dottedGroups) :
    group ≠ [] ∧ Json.colon ∉ group ∧ Json.fullStop ∈ group := by
  obtain ⟨dotted, -, rfl⟩ := List.mem_map.mp isMember
  have isStop := fullStop_mem_ipv4Text dotted
  exact ⟨List.ne_nil_of_mem isStop, fun isColon => (mem_ipv4Text isColon).1 rfl, isStop⟩

theorem groupSpan_dotted : groupSpan address.dottedGroups = 2 * address.dotted.toList.length := by
  unfold dottedGroups
  cases address.dotted with
  | none => rfl
  | some dotted => simp [groupSpan, fullStop_mem_ipv4Text dotted]

/-- All units of the text are ASCII. -/
theorem lt_of_mem_text {unit : UInt16} (isUnit : unit ∈ address.text) : unit < 0x80 := by
  have ofGroups : ∀ groups : List Text,
      (∀ group ∈ groups, group ∈ address.head ++ address.tail.getD [] ∨
        group ∈ address.dottedGroups) →
        ∀ unit ∈ [Json.colon].intercalate groups, unit < 0x80 := by
    intro groups areGroups unit isUnit
    rcases mem_intercalate isUnit with rfl | ⟨group, isGroup, isUnit⟩
    · decide
    · rcases areGroups group isGroup with isWritten | isDotted
      · exact lt_of_mem_hexUnits unit ((address.areGroups group isWritten).areDigits unit isUnit)
      · obtain ⟨dotted, -, rfl⟩ := List.mem_map.mp isDotted
        exact (mem_ipv4Text isUnit).2.1
  unfold text at isUnit
  cases isTail : address.tail with
  | none =>
      rw [isTail] at isUnit ofGroups
      refine ofGroups _ (fun group isGroup => ?_) unit isUnit
      exact (List.mem_append.mp isGroup).imp (List.mem_append_left _) id
  | some tail =>
      rw [isTail] at isUnit ofGroups
      simp only [List.mem_append, List.mem_cons] at isUnit
      rcases isUnit with inHead | rfl | rfl | inTail
      · exact ofGroups _ (fun group isGroup => .inl (List.mem_append_left _ isGroup)) unit inHead
      · decide
      · decide
      · refine ofGroups _ (fun group isGroup => ?_) unit inTail
        exact (List.mem_append.mp isGroup).imp (List.mem_append_right _) id

/-- The text in lower case is made of the groups in lower case. -/
theorem map_text :
    address.text.map lowerUnit =
      match address.tail with
      | none => [Json.colon].intercalate (address.head.map lower ++ address.dottedGroups)
      | some tail =>
          [Json.colon].intercalate (address.head.map lower) ++ Json.colon :: Json.colon ::
            [Json.colon].intercalate (tail.map lower ++ address.dottedGroups) := by
  have isColon : lowerUnit Json.colon = Json.colon := by decide
  have lowered : ∀ groups : List Text,
      ([Json.colon].intercalate groups).map lowerUnit =
        [Json.colon].intercalate (groups.map lower) := by
    intro groups
    rw [map_intercalate, isColon]
    rfl
  unfold text
  cases address.tail with
  | none =>
      dsimp only
      rw [lowered, List.map_append, map_dottedGroups]
  | some tail =>
      dsimp only
      rw [List.map_append, List.map_cons, List.map_cons, lowered, lowered, List.map_append,
        map_dottedGroups, isColon]

/-- What a group in lower case and a dotted group have in common. -/
theorem isPart_of_mem
    {groups : List Text}
    (areGroups : ∀ group ∈ groups, IsGroup group) :
    ∀ group ∈ groups.map lower ++ address.dottedGroups, group ≠ [] ∧ Json.colon ∉ group := by
  intro group isMember
  rcases List.mem_append.mp isMember with isLower | isDotted
  · obtain ⟨original, isOriginal, rfl⟩ := List.mem_map.mp isLower
    have isPart := isPart_lower (areGroups original isOriginal)
    exact ⟨isPart.1, isPart.2.1⟩
  · have isPart := address.isPart_dotted isDotted
    exact ⟨isPart.1, isPart.2.1⟩

theorem groupSpan_lower
    {groups : List Text}
    (areGroups : ∀ group ∈ groups, IsGroup group) :
    groupSpan (groups.map lower) = groups.length := by
  rw [groupSpan_of_plain, List.length_map]
  intro group isLower
  obtain ⟨original, isOriginal, rfl⟩ := List.mem_map.mp isLower
  exact (isPart_lower (areGroups original isOriginal)).2.2.1

/-- The first four groups are never dotted ones. -/
theorem take_written (others : List Text) :
    (address.written.map lower ++ others).take 4 = (address.written.take 4).map lower := by
  have isLong := address.four_le_length
  rw [List.take_append_of_le_length (by rw [List.length_map]; exact isLong), List.map_take]

/-- The key of an address holds its first four groups, in lower case and without
zeros in front. -/
theorem bucketKey_eq
    {runtime : Runtime}
    (documented : runtime.Documented) :
    bucketKey runtime address.text =
      [Json.colon].intercalate (((address.written.take 4).map lower).map stripZeros) ++
        prefixMark := by
  have lowered : runtime.toLowerCase address.text = address.text.map lowerUnit :=
    documented.lowers address.text fun unit isUnit => address.lt_of_mem_text isUnit
  have areGroups := address.areGroups
  have firstFour := address.take_written address.dottedGroups
  rw [bucketKey, if_pos (documented.ipv6 address), ipv6Prefix64, lowered, map_text, ← firstFour,
    written]
  cases isTail : address.tail with
  | none =>
      rw [isTail] at areGroups
      have areParts := address.isPart_of_mem fun group isGroup =>
        areGroups group (List.mem_append_left _ isGroup)
      have alone : splitDoubled Json.colon
          ([Json.colon].intercalate (address.head.map lower ++ address.dottedGroups)) =
            [[Json.colon].intercalate (address.head.map lower ++ address.dottedGroups)] := by
        have split := splitDoubled_intercalate areParts []
        rw [List.append_nil] at split
        rw [split]
        simp [splitDoubled]
      dsimp only
      rw [alone]
      simp only [List.take_succ_cons, List.take_nil, List.getElem?_cons_zero, Option.getD_some,
        List.getElem?_cons_succ, List.getElem?_nil, if_true, groupsOf_intercalate areParts]
  | some tail =>
      rw [isTail] at areGroups
      have areHead : ∀ group ∈ address.head, IsGroup group := fun group isGroup =>
        areGroups group (List.mem_append_left _ isGroup)
      have areTail : ∀ group ∈ tail, IsGroup group := fun group isGroup =>
        areGroups group (List.mem_append_right _ isGroup)
      have headParts : ∀ group ∈ address.head.map lower, group ≠ [] ∧ Json.colon ∉ group :=
        fun group isGroup => address.isPart_of_mem areHead group (List.mem_append_left _ isGroup)
      have tailParts := address.isPart_of_mem areTail
      have parted := splitDoubled_doubled fun group isGroup =>
        (List.mem_append.mp isGroup).elim (headParts group) (tailParts group)
      have isZero : lower [0x30] = [0x30] := by decide
      dsimp only
      rw [parted]
      simp only [List.take_succ_cons, List.take_zero, List.getElem?_cons_zero, Option.getD_some,
        List.getElem?_cons_succ, reduceCtorEq, if_false, groupsOf_intercalate headParts,
        groupsOf_intercalate tailParts, groupSpan_append, groupSpan_lower areHead,
        groupSpan_lower areTail, groupSpan_dotted, List.map_append, List.map_replicate, isZero,
        List.append_assoc]
      rw [show 8 - address.head.length - (tail.length + 2 * address.dotted.toList.length) =
        8 - address.head.length - tail.length - 2 * address.dotted.toList.length by omega]

/-- No key of an IPv6 address is the text of an IPv4 address. -/
theorem colon_mem_bucketKey
    {runtime : Runtime}
    (documented : runtime.Documented) :
    Json.colon ∈ bucketKey runtime address.text := by
  rw [bucketKey_eq address documented]
  exact List.mem_append_right _ (by decide)

end Ipv6Text

/-- Two IPv6 addresses have one key if and only if they share their first 64 bits, and
no IPv4 address has the key of an IPv6 address. -/
theorem bucketKey_ipv6
    {runtime : Runtime}
    (documented : runtime.Documented) :
    (∀ first second : Ipv6Text,
      bucketKey runtime first.text = bucketKey runtime second.text ↔
        first.address / 2 ^ 64 = second.address / 2 ^ 64) ∧
      ∀ (ipv6 : Ipv6Text) (ipv4 : Ipv4Text),
        bucketKey runtime ipv6.text ≠ bucketKey runtime ipv4.text := by
  constructor
  · intro first second
    rw [address_div_eq_iff, first.bucketKey_eq documented, second.bucketKey_eq documented,
      List.append_left_inj]
    have areGroups : ∀ address : Ipv6Text, ∀ group ∈ (address.written.take 4).map lower,
        group ≠ [] ∧ ∀ unit ∈ group, unit ∈ lowerUnits := by
      intro address group isLower
      obtain ⟨original, isOriginal, rfl⟩ := List.mem_map.mp isLower
      have isPart := isPart_lower (address.isGroup_of_mem_written (List.mem_of_mem_take isOriginal))
      exact ⟨isPart.1, isPart.2.2.2⟩
    have valued : ∀ address : Ipv6Text, ((address.written.take 4).map lower).map groupValue =
        (address.written.take 4).map groupValue := by
      intro address
      rw [List.map_map]
      refine List.map_congr_left fun group isGroup => groupValue_lower ?_
      exact (address.isGroup_of_mem_written (List.mem_of_mem_take isGroup)).areDigits
    have joined : ∀ address : Ipv6Text,
        ([Json.colon].intercalate
          (((address.written.take 4).map lower).map stripZeros)).splitOn Json.colon =
          ((address.written.take 4).map lower).map stripZeros := by
      intro address
      apply List.splitOn_intercalate Json.colon
      · intro part isPart isColon
        obtain ⟨group, isGroup, rfl⟩ := List.mem_map.mp isPart
        exact (not_mark_of_mem Json.colon ((areGroups address group isGroup).2 Json.colon
          (stripZeros_subset group isColon))).1 rfl
      · intro isEmpty
        have isLength := congrArg List.length isEmpty
        have isLong := address.four_le_length
        simp only [List.length_map, List.length_take, List.length_nil] at isLength
        omega
    rw [← valued first, ← valued second, ← map_stripZeros_inj fun group isGroup =>
      (List.mem_append.mp isGroup).elim (areGroups first group) (areGroups second group)]
    constructor
    · intro same
      rw [← joined first, same, joined second]
    · intro same
      rw [same]
  · intro ipv6 ipv4 same
    have isColon := ipv6.colon_mem_bucketKey documented
    rw [same, bucketKey, if_neg (by rw [documented.ipv4 ipv4]; decide)] at isColon
    exact (mem_ipv4Text isColon).1 rfl

/-! ## A runtime -/

/-- A runtime that tells addresses apart by their marks and lowers ASCII letters. -/
def plainRuntime : Runtime where
  isIP text := if Json.colon ∈ text then 6 else if Json.fullStop ∈ text then 4 else 0
  toLowerCase text := text.map lowerUnit

theorem colon_mem_intercalate
    {groups : List Text}
    (several : 2 ≤ groups.length) :
    Json.colon ∈ [Json.colon].intercalate groups := by
  obtain ⟨first, second, others, rfl⟩ : ∃ first second others,
      groups = first :: second :: others := by
    match groups with
    | first :: second :: others => exact ⟨first, second, others, rfl⟩
  rw [List.intercalate_cons_cons]
  simp

theorem plainRuntime_documented : plainRuntime.Documented where
  ipv6 address := by
    have isColon : Json.colon ∈ address.text := by
      unfold Ipv6Text.text
      cases isTail : address.tail with
      | none =>
          refine colon_mem_intercalate ?_
          have isWhole := address.isWhole isTail
          have isDotted : address.dotted.toList.length ≤ 1 := by cases address.dotted <;> simp
          rw [List.length_append]
          omega
      | some tail => simp
    exact if_pos isColon
  ipv4 address := by
    have notColon : Json.colon ∉ address.text := fun isColon => (mem_ipv4Text isColon).1 rfl
    exact (if_neg notColon).trans (if_pos (fullStop_mem_ipv4Text address))
  lowers _ _ := rfl

/-- `2001:db8:0:2::1` -/
def compressedAddress : Ipv6Text where
  head := [[0x32, 0x30, 0x30, 0x31], [0x64, 0x62, 0x38], [0x30], [0x32]]
  tail := some [[0x31]]
  dotted := none
  areGroups := by
    simp only [Option.getD_some, List.cons_append, List.nil_append, List.forall_mem_cons,
      List.not_mem_nil, false_imp_iff, implies_true, and_true]
    refine ⟨?_, ?_, ?_, ?_, ?_⟩
    all_goals exact ⟨by decide, by decide, List.forall_iff_forall_mem.mp (by decide)⟩
  isWhole := by decide
  leavesOut := by simp

/-- `2001:0DB8::2:0:0:1.2.3.4` -/
def dottedAddress : Ipv6Text where
  head := [[0x32, 0x30, 0x30, 0x31], [0x30, 0x44, 0x42, 0x38]]
  tail := some [[0x32], [0x30], [0x30]]
  dotted := some ⟨1, 2, 3, 4⟩
  areGroups := by
    simp only [Option.getD_some, List.cons_append, List.nil_append, List.forall_mem_cons,
      List.not_mem_nil, false_imp_iff, implies_true, and_true]
    refine ⟨?_, ?_, ?_, ?_, ?_⟩
    all_goals exact ⟨by decide, by decide, List.forall_iff_forall_mem.mp (by decide)⟩
  isWhole := by decide
  leavesOut := by simp

example : compressedAddress.text = Json.ascii "2001:db8:0:2::1".toList := by decide

example : dottedAddress.text = Json.ascii "2001:0DB8::2:0:0:1.2.3.4".toList := by decide

theorem bucketKey_ipv6_of_dotted :
    bucketKey plainRuntime compressedAddress.text = bucketKey plainRuntime dottedAddress.text :=
  ((bucketKey_ipv6 plainRuntime_documented).1 compressedAddress dottedAddress).mpr
    (by decide +kernel)

end Unseen
