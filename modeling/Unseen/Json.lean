import Mathlib.Data.Nat.Digits.Defs
import Mathlib.Data.Nat.Log
import Mathlib.Data.Rat.Floor
import Unseen.OrderedMap
import Unseen.Unicode

/-!
# JSON texts

Parsing follows the grammar of ECMA-404 and the semantics of `JSON.parse`:
numbers round to the nearest double, the last of several members with one name
wins, and a string may hold any code units.  Only records of strings and
integers are written.
-/

namespace Unseen.Json

open Unicode

/-- The code units of ASCII characters. -/
def ascii (characters : List Char) : CodeUnits :=
  characters.map fun character => UInt16.ofNat character.toNat

def quotationMark : UInt16 := 0x22
def comma : UInt16 := 0x2C
def hyphen : UInt16 := 0x2D
def fullStop : UInt16 := 0x2E
def colon : UInt16 := 0x3A
def leftBracket : UInt16 := 0x5B
def reverseSolidus : UInt16 := 0x5C
def rightBracket : UInt16 := 0x5D
def letterU : UInt16 := 0x75
def leftBrace : UInt16 := 0x7B
def rightBrace : UInt16 := 0x7D

/-! ## Values -/

/-- A double that a JSON number can round to; the sign of zero is not kept. -/
inductive Number where
  | finite (value : ℚ)
  | infinite (negative : Bool)
  deriving DecidableEq

/-- A parsed JSON text.  The members of an object have distinct names. -/
inductive Value where
  | null
  | bool (value : Bool)
  | number (value : Number)
  | string (value : CodeUnits)
  | array (elements : List Value)
  | object (members : List (CodeUnits × Value))

/-! ## Numbers -/

/-- A power of two. -/
def powerOfTwo (exponent : Int) : ℚ :=
  if 0 ≤ exponent then 2 ^ exponent.toNat else 1 / 2 ^ (-exponent).toNat

/-- The nearest integer, and of two the even one. -/
def roundToEven (value : ℚ) : Int :=
  let low := value.floor
  if value - low < 1 / 2 then low
  else if 1 / 2 < value - low then low + 1
  else if low % 2 = 0 then low else low + 1

/-- The exponent of the leading bit of a positive number. -/
def leadingExponent (value : ℚ) : Int :=
  let estimate := (Nat.log2 value.num.toNat : Int) - Nat.log2 value.den
  if powerOfTwo estimate ≤ value then estimate else estimate - 1

/-- A positive number, rounded to the precision of a double. -/
def roundToDouble (value : ℚ) : ℚ :=
  let ulp := powerOfTwo (max (leadingExponent value - 52) (-1074))
  roundToEven (value / ulp) * ulp

/-- A magnitude with a sign, or infinity beyond the largest double. -/
def Number.ofMagnitude (negative : Bool) (magnitude : ℚ) : Number :=
  if powerOfTwo 1024 ≤ magnitude then .infinite negative
  else .finite (if negative then -magnitude else magnitude)

/-- The double nearest to a decimal number.  Orders of magnitude far outside
the doubles are decided before any power is computed. -/
def Number.ofDecimal (negative : Bool) (significand : Nat) (exponent : Int) : Number :=
  let order := (Nat.log 10 significand : Int) + exponent
  if significand = 0 ∨ order < -330 then .finite 0
  else if 310 < order then .infinite negative
  else if 0 ≤ exponent then
    .ofMagnitude negative (roundToDouble (significand * 10 ^ exponent.toNat))
  else
    .ofMagnitude negative (roundToDouble (significand / 10 ^ (-exponent).toNat))

def isDigit (unit : UInt16) : Bool :=
  0x30 ≤ unit && unit ≤ 0x39

/-- The number a run of decimal digits writes. -/
def digitsValue (digits : CodeUnits) : Nat :=
  digits.foldl (fun value unit => 10 * value + (unit.toNat - 0x30)) 0

/-- The digits after a decimal point, when there is one. -/
def parseFraction : CodeUnits → Option (CodeUnits × CodeUnits)
  | [] => some ([], [])
  | unit :: rest =>
      if unit = fullStop then
        let (digits, rest) := rest.span isDigit
        if digits = [] then none else some (digits, rest)
      else
        some ([], unit :: rest)

/-- The sign of an exponent. -/
def parseSign : CodeUnits → Bool × CodeUnits
  | [] => (false, [])
  | unit :: rest =>
      if unit = hyphen then (true, rest)
      else if unit = 0x2B then (false, rest)
      else (false, unit :: rest)

/-- The exponent, when there is one. -/
def parseExponent : CodeUnits → Option (Int × CodeUnits)
  | [] => some (0, [])
  | unit :: rest =>
      if unit = 0x65 ∨ unit = 0x45 then
        let (negative, rest) := parseSign rest
        let (digits, rest) := rest.span isDigit
        if digits = [] then none
        else some (if negative then -digitsValue digits else digitsValue digits, rest)
      else
        some (0, unit :: rest)

/-- A number after its sign: no superfluous zero leads. -/
def parseMagnitude (negative : Bool) (text : CodeUnits) : Option (Number × CodeUnits) :=
  let (whole, rest) := text.span isDigit
  if whole = [] ∨ (whole.head? = some 0x30 ∧ whole.length ≠ 1) then
    none
  else do
    let (fraction, rest) ← parseFraction rest
    let (exponent, rest) ← parseExponent rest
    some (.ofDecimal negative (digitsValue (whole ++ fraction)) (exponent - fraction.length), rest)

def parseNumber : CodeUnits → Option (Number × CodeUnits)
  | [] => none
  | unit :: rest =>
      if unit = hyphen then parseMagnitude true rest else parseMagnitude false (unit :: rest)

/-! ## Strings -/

/-- The value of a hexadecimal digit. -/
def hexValue (unit : UInt16) : Option Nat :=
  if 0x30 ≤ unit ∧ unit ≤ 0x39 then some (unit.toNat - 0x30)
  else if 0x41 ≤ unit ∧ unit ≤ 0x46 then some (unit.toNat - 0x37)
  else if 0x61 ≤ unit ∧ unit ≤ 0x66 then some (unit.toNat - 0x57)
  else none

/-- The code unit that four hexadecimal digits write. -/
def hexUnit (first second third fourth : UInt16) : Option UInt16 := do
  let first ← hexValue first
  let second ← hexValue second
  let third ← hexValue third
  let fourth ← hexValue fourth
  some (UInt16.ofNat (0x1000 * first + 0x100 * second + 0x10 * third + fourth))

/-- The units that one character after a backslash stands for, and that
character. -/
def escapes : List (UInt16 × UInt16) :=
  [(0x22, 0x22), (0x5C, 0x5C), (0x2F, 0x2F), (0x62, 0x08), (0x66, 0x0C), (0x6E, 0x0A),
    (0x72, 0x0D), (0x74, 0x09)]

/-- A string after its opening quotation mark. -/
def parseString : CodeUnits → Option (CodeUnits × CodeUnits)
  | [] => none
  | unit :: rest =>
      if unit = quotationMark then
        some ([], rest)
      else if unit = reverseSolidus then
        match rest with
        | [] => none
        | escape :: rest =>
            if escape = letterU then
              match rest with
              | first :: second :: third :: fourth :: rest => do
                  let unit ← hexUnit first second third fourth
                  let (units, rest) ← parseString rest
                  some (unit :: units, rest)
              | _ => none
            else do
              let unit ← escapes.lookup escape
              let (units, rest) ← parseString rest
              some (unit :: units, rest)
      else if unit < 0x20 then
        none
      else do
        let (units, rest) ← parseString rest
        some (unit :: units, rest)

/-! ## Values and texts -/

def isWhitespace (unit : UInt16) : Bool :=
  unit = 0x20 || unit = 0x09 || unit = 0x0A || unit = 0x0D

def skipWhitespace (text : CodeUnits) : CodeUnits :=
  text.dropWhile isWhitespace

/-- What follows a literal name. -/
def afterLiteral (literal text : CodeUnits) : Option CodeUnits :=
  if literal.isPrefixOf text then some (text.drop literal.length) else none

/-- `null`, `true`, `false` or a number. -/
def parsePlain (text : CodeUnits) : Option (Value × CodeUnits) :=
  match afterLiteral (ascii ['n', 'u', 'l', 'l']) text with
  | some rest => some (.null, rest)
  | none =>
      match afterLiteral (ascii ['t', 'r', 'u', 'e']) text with
      | some rest => some (.bool true, rest)
      | none =>
          match afterLiteral (ascii ['f', 'a', 'l', 's', 'e']) text with
          | some rest => some (.bool false, rest)
          | none => (parseNumber text).map fun (number, rest) => (.number number, rest)

section Nested

variable (parse : CodeUnits → Option (Value × CodeUnits))

/-- The elements of an array from the next one on. -/
def parseElements : Nat → List Value → CodeUnits → Option (Value × CodeUnits)
  | 0, _, _ => none
  | fuel + 1, elements, text => do
      let (element, rest) ← parse text
      match skipWhitespace rest with
      | [] => none
      | unit :: rest =>
          if unit = comma then parseElements fuel (elements ++ [element]) rest
          else if unit = rightBracket then some (.array (elements ++ [element]), rest)
          else none

/-- A member's name and the colon behind it. -/
def parseName (text : CodeUnits) : Option (CodeUnits × CodeUnits) :=
  match skipWhitespace text with
  | [] => none
  | unit :: rest =>
      if unit = quotationMark then do
        let (name, rest) ← parseString rest
        match skipWhitespace rest with
        | [] => none
        | unit :: rest => if unit = colon then some (name, rest) else none
      else
        none

/-- The members of an object from the next one on. -/
def parseMembers :
    Nat → OrderedMap CodeUnits Value → CodeUnits → Option (Value × CodeUnits)
  | 0, _, _ => none
  | fuel + 1, members, text => do
      let (name, rest) ← parseName text
      let (value, rest) ← parse rest
      match skipWhitespace rest with
      | [] => none
      | unit :: rest =>
          if unit = comma then parseMembers fuel (members.set name value) rest
          else if unit = rightBrace then some (.object (members.set name value).entries, rest)
          else none

/-- A value that starts with its first unit. -/
def parseComposite (fuel : Nat) : CodeUnits → Option (Value × CodeUnits)
  | [] => none
  | unit :: rest =>
      if unit = leftBrace then
        match skipWhitespace rest with
        | [] => none
        | next :: others =>
            if next = rightBrace then some (.object [], others)
            else parseMembers parse fuel .empty (next :: others)
      else if unit = leftBracket then
        match skipWhitespace rest with
        | [] => none
        | next :: others =>
            if next = rightBracket then some (.array [], others)
            else parseElements parse fuel [] (next :: others)
      else if unit = quotationMark then
        (parseString rest).map fun (units, rest) => (.string units, rest)
      else
        parsePlain (unit :: rest)

end Nested

/-- The value at the start of a text, and what follows it.  Every unit of a text
can take one unit of fuel. -/
def parseValue : Nat → CodeUnits → Option (Value × CodeUnits)
  | 0, _ => none
  | fuel + 1, text => parseComposite (parseValue fuel) fuel (skipWhitespace text)

/-- `JSON.parse`: one value and nothing but white space behind it. -/
def parse (text : CodeUnits) : Option Value := do
  let (value, rest) ← parseValue (text.length + 1) text
  if skipWhitespace rest = [] then some value else none

/-! ## Fuel -/

/-- A parser that leaves less text than it is given. -/
def Shortens {Result : Type} (parser : CodeUnits → Option (Result × CodeUnits)) : Prop :=
  ∀ {text result rest}, parser text = some (result, rest) → rest.length < text.length

theorem length_skipWhitespace_le (text : CodeUnits) :
    (skipWhitespace text).length ≤ text.length :=
  (List.dropWhile_suffix _).length_le

theorem length_span (text : CodeUnits) :
    (text.span isDigit).1.length + (text.span isDigit).2.length = text.length := by
  rw [List.span_eq_takeWhile_dropWhile, ← List.length_append, List.takeWhile_append_dropWhile]

theorem parseFraction_le
    {text digits rest : CodeUnits}
    (parsed : parseFraction text = some (digits, rest)) :
    rest.length ≤ text.length := by
  cases text with
  | nil =>
      cases parsed
      exact Nat.le_refl _
  | cons unit others =>
      simp only [parseFraction] at parsed
      split at parsed
      · have isLength := length_span others
        simp only [Option.ite_none_left_eq_some, Option.some.injEq, Prod.mk.injEq] at parsed
        obtain ⟨-, -, rfl⟩ := parsed
        rw [List.length_cons]
        omega
      · cases parsed
        exact Nat.le_refl _

theorem parseSign_le (text : CodeUnits) : (parseSign text).2.length ≤ text.length := by
  cases text with
  | nil => exact Nat.le_refl _
  | cons unit others =>
      simp only [parseSign]
      split
      · exact Nat.le_succ _
      · split
        · exact Nat.le_succ _
        · exact Nat.le_refl _

theorem parseExponent_le
    {text rest : CodeUnits}
    {exponent : Int}
    (parsed : parseExponent text = some (exponent, rest)) :
    rest.length ≤ text.length := by
  cases text with
  | nil =>
      cases parsed
      exact Nat.le_refl _
  | cons unit others =>
      simp only [parseExponent] at parsed
      split at parsed
      · have isLength := length_span (parseSign others).2
        have isShort := parseSign_le others
        simp only [Option.ite_none_left_eq_some, Option.some.injEq, Prod.mk.injEq] at parsed
        obtain ⟨-, -, rfl⟩ := parsed
        rw [List.length_cons]
        omega
      · cases parsed
        exact Nat.le_refl _

theorem parseMagnitude_shortens (negative : Bool) : Shortens (parseMagnitude negative) := by
  intro text number rest parsed
  have isLength := length_span text
  simp only [parseMagnitude, Option.ite_none_left_eq_some, Option.bind_eq_bind,
    Option.bind_eq_some_iff, Option.some.injEq, Prod.mk.injEq, Prod.exists, not_or] at parsed
  obtain ⟨⟨notEmpty, -⟩, fraction, afterFraction, isFraction, exponent, _, isExponent, -, rfl⟩ :=
    parsed
  have first := parseFraction_le isFraction
  have second := parseExponent_le isExponent
  have isPositive := List.length_pos_iff.mpr notEmpty
  omega

theorem parseNumber_shortens : Shortens parseNumber := by
  intro text number rest parsed
  cases text with
  | nil => cases parsed
  | cons unit others =>
      simp only [parseNumber] at parsed
      split at parsed
      · exact Nat.lt_succ_of_lt (parseMagnitude_shortens true parsed)
      · exact parseMagnitude_shortens false parsed

theorem parseString_shortens : Shortens parseString := by
  intro text units rest parsed
  fun_induction parseString text generalizing units with
  | case1 => cases parsed
  | case2 => simp_all
  | case3 => cases parsed
  | case4 _ first second third fourth others ih =>
      simp only [Option.bind_eq_bind, Option.bind_eq_some_iff, Option.some.injEq, Prod.mk.injEq,
        Prod.exists] at parsed
      obtain ⟨_, -, _, _, isRest, -, rfl⟩ := parsed
      have isShort := ih isRest
      simp only [List.length_cons]
      omega
  | case5 => cases parsed
  | case6 _ escape others _ ih =>
      simp only [Option.bind_eq_bind, Option.bind_eq_some_iff, Option.some.injEq, Prod.mk.injEq,
        Prod.exists] at parsed
      obtain ⟨_, -, _, _, isRest, -, rfl⟩ := parsed
      have isShort := ih isRest
      simp only [List.length_cons]
      omega
  | case7 => cases parsed
  | case8 unit others _ _ _ ih =>
      simp only [Option.bind_eq_bind, Option.bind_eq_some_iff, Option.some.injEq, Prod.mk.injEq,
        Prod.exists] at parsed
      obtain ⟨_, _, isRest, -, rfl⟩ := parsed
      exact Nat.lt_succ_of_lt (ih isRest)

theorem afterLiteral_lt
    {literal text rest : CodeUnits}
    (notEmpty : literal ≠ [])
    (isAfter : afterLiteral literal text = some rest) :
    rest.length < text.length := by
  simp only [afterLiteral, Option.ite_none_right_eq_some, List.isPrefixOf_iff_prefix,
    Option.some.injEq] at isAfter
  obtain ⟨isPrefix, rfl⟩ := isAfter
  have isPositive := List.length_pos_iff.mpr notEmpty
  have isLonger := isPrefix.length_le
  rw [List.length_drop]
  omega

theorem parsePlain_shortens : Shortens parsePlain := by
  intro text value rest parsed
  unfold parsePlain at parsed
  split at parsed
  · next isAfter =>
      cases parsed
      exact afterLiteral_lt (by decide) isAfter
  · split at parsed
    · next isAfter =>
        cases parsed
        exact afterLiteral_lt (by decide) isAfter
    · split at parsed
      · next isAfter =>
          cases parsed
          exact afterLiteral_lt (by decide) isAfter
      · obtain ⟨⟨number, others⟩, isNumber, isValue⟩ := Option.map_eq_some_iff.mp parsed
        cases isValue
        exact parseNumber_shortens isNumber

theorem parseName_shortens : Shortens parseName := by
  intro text name rest parsed
  have isShort := length_skipWhitespace_le text
  unfold parseName at parsed
  split at parsed
  · cases parsed
  next unit others isText =>
    rw [isText, List.length_cons] at isShort
    split at parsed
    · simp only [Option.bind_eq_bind, Option.bind_eq_some_iff, Prod.exists] at parsed
      obtain ⟨_, afterName, isName, parsed⟩ := parsed
      have isShorter := parseString_shortens isName
      have isShortest := length_skipWhitespace_le afterName
      split at parsed
      · cases parsed
      next isRest =>
        rw [isRest, List.length_cons] at isShortest
        simp only [Option.ite_none_right_eq_some, Option.some.injEq, Prod.mk.injEq] at parsed
        obtain ⟨-, -, rfl⟩ := parsed
        omega
    · cases parsed

section Nested

variable {parse other : CodeUnits → Option (Value × CodeUnits)}

theorem parseElements_shortens
    (shortens : Shortens parse)
    (fuel : Nat)
    (elements : List Value) :
    Shortens (parseElements parse fuel elements) := by
  induction fuel generalizing elements with
  | zero =>
      intro _ _ _ parsed
      cases parsed
  | succ fuel ih =>
      intro text value rest parsed
      simp only [parseElements, Option.bind_eq_bind, Option.bind_eq_some_iff, Prod.exists] at parsed
      obtain ⟨element, afterElement, isElement, parsed⟩ := parsed
      have isShort := shortens isElement
      have isShorter := length_skipWhitespace_le afterElement
      split at parsed
      · cases parsed
      next unit others isRest =>
        rw [isRest, List.length_cons] at isShorter
        split at parsed
        · have isShortest := ih _ parsed
          omega
        · simp only [Option.ite_none_right_eq_some, Option.some.injEq, Prod.mk.injEq] at parsed
          obtain ⟨-, -, rfl⟩ := parsed
          omega

theorem parseMembers_shortens
    (shortens : Shortens parse)
    (fuel : Nat)
    (members : OrderedMap CodeUnits Value) :
    Shortens (parseMembers parse fuel members) := by
  induction fuel generalizing members with
  | zero =>
      intro _ _ _ parsed
      cases parsed
  | succ fuel ih =>
      intro text value rest parsed
      simp only [parseMembers, Option.bind_eq_bind, Option.bind_eq_some_iff, Prod.exists] at parsed
      obtain ⟨name, afterName, isName, member, afterMember, isMember, parsed⟩ := parsed
      have nameShort := parseName_shortens isName
      have isShort := shortens isMember
      have isShorter := length_skipWhitespace_le afterMember
      split at parsed
      · cases parsed
      next unit others isRest =>
        rw [isRest, List.length_cons] at isShorter
        split at parsed
        · have isShortest := ih _ parsed
          omega
        · simp only [Option.ite_none_right_eq_some, Option.some.injEq, Prod.mk.injEq] at parsed
          obtain ⟨-, -, rfl⟩ := parsed
          omega

theorem parseComposite_shortens (shortens : Shortens parse) (fuel : Nat) :
    Shortens (parseComposite parse fuel) := by
  intro text value rest parsed
  cases text with
  | nil => cases parsed
  | cons unit others =>
      have isShort := length_skipWhitespace_le others
      simp only [parseComposite] at parsed
      rw [List.length_cons]
      split at parsed
      · split at parsed
        · cases parsed
        next next behind isOthers =>
          rw [isOthers, List.length_cons] at isShort
          split at parsed
          · cases parsed
            omega
          · have isShorter := parseMembers_shortens shortens _ _ parsed
            rw [List.length_cons] at isShorter
            omega
      · split at parsed
        · split at parsed
          · cases parsed
          next next behind isOthers =>
            rw [isOthers, List.length_cons] at isShort
            split at parsed
            · cases parsed
              omega
            · have isShorter := parseElements_shortens shortens _ _ parsed
              rw [List.length_cons] at isShorter
              omega
        · split at parsed
          · obtain ⟨⟨units, behind⟩, isString, isValue⟩ := Option.map_eq_some_iff.mp parsed
            cases isValue
            exact Nat.lt_succ_of_lt (parseString_shortens isString)
          · exact parsePlain_shortens parsed

/-- Two parsers that agree on the texts below a length. -/
def AgreeBelow (parse other : CodeUnits → Option (Value × CodeUnits)) (limit : Nat) : Prop :=
  ∀ text : CodeUnits, text.length < limit → parse text = other text

theorem parseElements_congr
    (shortens : Shortens parse)
    {limit first second : Nat}
    (agree : AgreeBelow parse other limit)
    (elements : List Value)
    {text : CodeUnits}
    (short : text.length < limit)
    (enough : text.length < first)
    (alsoEnough : text.length < second) :
    parseElements parse first elements text = parseElements other second elements text := by
  induction first generalizing second elements text with
  | zero => cases enough
  | succ first ih =>
      cases second with
      | zero => cases alsoEnough
      | succ second =>
          simp only [parseElements, ← agree text short]
          cases isElement : parse text with
          | none => rfl
          | some result =>
              have isShort := shortens isElement
              have isShorter := length_skipWhitespace_le result.2
              simp only [Option.bind_eq_bind, Option.bind_some]
              split
              · rfl
              next unit others isRest =>
                rw [isRest, List.length_cons] at isShorter
                split
                · exact ih _ (by omega) (by omega) (by omega)
                · rfl

theorem parseMembers_congr
    (shortens : Shortens parse)
    {limit first second : Nat}
    (agree : AgreeBelow parse other limit)
    (members : OrderedMap CodeUnits Value)
    {text : CodeUnits}
    (short : text.length < limit)
    (enough : text.length < first)
    (alsoEnough : text.length < second) :
    parseMembers parse first members text = parseMembers other second members text := by
  induction first generalizing second members text with
  | zero => cases enough
  | succ first ih =>
      cases second with
      | zero => cases alsoEnough
      | succ second =>
          simp only [parseMembers]
          cases isName : parseName text with
          | none => rfl
          | some named =>
              have nameShort := parseName_shortens isName
              simp only [Option.bind_eq_bind, Option.bind_some, ← agree named.2 (by omega)]
              cases isMember : parse named.2 with
              | none => rfl
              | some result =>
                  have isShort := shortens isMember
                  have isShorter := length_skipWhitespace_le result.2
                  simp only [Option.bind_some]
                  split
                  · rfl
                  next unit others isRest =>
                    rw [isRest, List.length_cons] at isShorter
                    split
                    · exact ih _ (by omega) (by omega) (by omega)
                    · rfl

theorem parseComposite_congr
    (shortens : Shortens parse)
    {first second : Nat}
    {text : CodeUnits}
    (agree : AgreeBelow parse other text.length)
    (enough : text.length ≤ first)
    (alsoEnough : text.length ≤ second) :
    parseComposite parse first text = parseComposite other second text := by
  cases text with
  | nil => rfl
  | cons unit others =>
      have isShort := length_skipWhitespace_le others
      rw [List.length_cons] at agree enough alsoEnough
      simp only [parseComposite]
      split
      · split
        · rfl
        next isOthers =>
          rw [isOthers] at isShort
          split
          · rfl
          · exact parseMembers_congr shortens agree _ (by omega) (by omega) (by omega)
      · split
        · split
          · rfl
          next isOthers =>
            rw [isOthers] at isShort
            split
            · rfl
            · exact parseElements_congr shortens agree _ (by omega) (by omega) (by omega)
        · rfl

end Nested

theorem parseValue_shortens (fuel : Nat) : Shortens (parseValue fuel) := by
  induction fuel with
  | zero =>
      intro _ _ _ parsed
      cases parsed
  | succ fuel ih =>
      intro text value rest parsed
      exact Nat.lt_of_lt_of_le (parseComposite_shortens ih _ parsed) (length_skipWhitespace_le _)

/-- Fuel beyond the length of the text makes no difference. -/
theorem parseValue_enough
    {text : CodeUnits}
    {first second : Nat}
    (enough : text.length < first)
    (alsoEnough : text.length < second) :
    parseValue first text = parseValue second text := by
  induction first generalizing second text with
  | zero => cases enough
  | succ first ih =>
      cases second with
      | zero => cases alsoEnough
      | succ second =>
          have isShort := length_skipWhitespace_le text
          refine parseComposite_congr (parseValue_shortens first) ?_ (by omega) (by omega)
          intro nested isNested
          exact ih (by omega) (by omega)

/-- The fuel that `parse` gives is as good as any more. -/
theorem parse_eq
    {text : CodeUnits}
    {fuel : Nat}
    (enough : text.length < fuel) :
    parse text =
      (parseValue fuel text).bind fun result =>
        if skipWhitespace result.2 = [] then some result.1 else none := by
  rw [parse, parseValue_enough (Nat.lt_succ_self _) enough]
  rfl

/-! ## Names of members -/

/-- The members of an object have distinct names. -/
def Value.DistinctNames : Value → Prop
  | .object members => (members.map Prod.fst).Nodup
  | _ => True

section Nested

variable {parse : CodeUnits → Option (Value × CodeUnits)}

theorem parseElements_distinct
    {fuel : Nat}
    {elements : List Value}
    {text rest : CodeUnits}
    {value : Value}
    (parsed : parseElements parse fuel elements text = some (value, rest)) :
    value.DistinctNames := by
  induction fuel generalizing elements text with
  | zero => cases parsed
  | succ fuel ih =>
      simp only [parseElements, Option.bind_eq_bind, Option.bind_eq_some_iff, Prod.exists] at parsed
      obtain ⟨element, afterElement, -, parsed⟩ := parsed
      split at parsed
      · cases parsed
      · split at parsed
        · exact ih parsed
        · simp only [Option.ite_none_right_eq_some, Option.some.injEq, Prod.mk.injEq] at parsed
          obtain ⟨-, rfl, -⟩ := parsed
          trivial

theorem parseMembers_distinct
    {fuel : Nat}
    {members : OrderedMap CodeUnits Value}
    {text rest : CodeUnits}
    {value : Value}
    (parsed : parseMembers parse fuel members text = some (value, rest)) :
    value.DistinctNames := by
  induction fuel generalizing members text with
  | zero => cases parsed
  | succ fuel ih =>
      simp only [parseMembers, Option.bind_eq_bind, Option.bind_eq_some_iff, Prod.exists] at parsed
      obtain ⟨name, afterName, -, member, afterMember, -, parsed⟩ := parsed
      split at parsed
      · cases parsed
      · split at parsed
        · exact ih parsed
        · simp only [Option.ite_none_right_eq_some, Option.some.injEq, Prod.mk.injEq] at parsed
          obtain ⟨-, rfl, -⟩ := parsed
          exact (members.set name member).distinct

theorem parsePlain_distinct
    {text rest : CodeUnits}
    {value : Value}
    (parsed : parsePlain text = some (value, rest)) :
    value.DistinctNames := by
  unfold parsePlain at parsed
  split at parsed
  · cases parsed
    trivial
  · split at parsed
    · cases parsed
      trivial
    · split at parsed
      · cases parsed
        trivial
      · obtain ⟨⟨number, others⟩, -, isValue⟩ := Option.map_eq_some_iff.mp parsed
        cases isValue
        trivial

theorem parseComposite_distinct
    {fuel : Nat}
    {text rest : CodeUnits}
    {value : Value}
    (parsed : parseComposite parse fuel text = some (value, rest)) :
    value.DistinctNames := by
  cases text with
  | nil => cases parsed
  | cons unit others =>
      simp only [parseComposite] at parsed
      split at parsed
      · split at parsed
        · cases parsed
        · split at parsed
          · cases parsed
            exact List.nodup_nil
          · exact parseMembers_distinct parsed
      · split at parsed
        · split at parsed
          · cases parsed
          · split at parsed
            · cases parsed
              trivial
            · exact parseElements_distinct parsed
        · split at parsed
          · obtain ⟨⟨units, behind⟩, -, isValue⟩ := Option.map_eq_some_iff.mp parsed
            cases isValue
            trivial
          · exact parsePlain_distinct parsed

end Nested

theorem parse_distinct
    {text : CodeUnits}
    {value : Value}
    (parsed : parse text = some value) :
    value.DistinctNames := by
  simp only [parse, Option.bind_eq_bind, Option.bind_eq_some_iff, Prod.exists,
    Option.ite_none_right_eq_some, Option.some.injEq] at parsed
  obtain ⟨_, _, isValue, -, rfl⟩ := parsed
  exact parseComposite_distinct isValue

end Unseen.Json
