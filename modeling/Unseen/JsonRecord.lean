import Mathlib.Tactic.FieldSimp
import Mathlib.Tactic.IntervalCases
import Mathlib.Tactic.NormNum
import Unseen.Hex
import Unseen.Json

/-!
# Writing records as JSON

`JSON.stringify` on objects whose properties are strings and integers, and that
`JSON.parse` reads back what it wrote.
-/

namespace Unseen.Json

open Unicode

/-! ## Writing -/

/-- `UnicodeEscape` -/
def unicodeEscape (unit : UInt16) : CodeUnits :=
  [ reverseSolidus,
    letterU,
    hexDigit (unit.toNat / 0x1000),
    hexDigit (unit.toNat / 0x100 % 0x10),
    hexDigit (unit.toNat / 0x10 % 0x10),
    hexDigit (unit.toNat % 0x10) ]

/-- Units that `QuoteJSONString` escapes by one character, and that character. -/
def shortEscapes : List (UInt16 × UInt16) :=
  [(0x08, 0x62), (0x09, 0x74), (0x0A, 0x6E), (0x0C, 0x66), (0x0D, 0x72), (0x22, 0x22),
    (0x5C, 0x5C)]

/-- `QuoteJSONString` on a unit outside a surrogate pair. -/
def quoteUnit (unit : UInt16) : CodeUnits :=
  match shortEscapes.lookup unit with
  | some escape => [reverseSolidus, escape]
  | none =>
      if unit < 0x20 || isLeading unit || isTrailing unit then unicodeEscape unit else [unit]

/-- `QuoteJSONString` between the quotation marks. -/
def quoteUnits : CodeUnits → CodeUnits
  | [] => []
  | [unit] => quoteUnit unit
  | first :: second :: rest =>
      if isLeading first && isTrailing second then
        first :: second :: quoteUnits rest
      else
        quoteUnit first ++ quoteUnits (second :: rest)

/-- `QuoteJSONString` -/
def quote (units : CodeUnits) : CodeUnits :=
  quotationMark :: (quoteUnits units ++ [quotationMark])

/-- The decimal digits of a number. -/
def decimal (value : Nat) : CodeUnits :=
  ascii (Nat.toDigits 10 value)

/-- A property of a record. -/
inductive Property where
  | string (value : CodeUnits)
  | integer (value : Int)

/-- The value a property is written as. -/
def Property.toValue : Property → Value
  | .string value => .string value
  | .integer value => .number (.finite value)

/-- Integers that a double holds exactly, with all their neighbours. -/
def Property.IsSafe : Property → Prop
  | .string _ => True
  | .integer value => value.natAbs < 2 ^ 53

def stringifyProperty : Property → CodeUnits
  | .string value => quote value
  | .integer value =>
      if value < 0 then hyphen :: decimal value.natAbs else decimal value.natAbs

def stringifyMember (member : CodeUnits × Property) : CodeUnits :=
  quote member.1 ++ colon :: stringifyProperty member.2

/-- Members with commas between them, and the closing brace. -/
def stringifyMembers : List (CodeUnits × Property) → CodeUnits
  | [] => [rightBrace]
  | [member] => stringifyMember member ++ [rightBrace]
  | member :: others => stringifyMember member ++ comma :: stringifyMembers others

/-- `JSON.stringify` on a record with these properties. -/
def stringify (members : List (CodeUnits × Property)) : CodeUnits :=
  leftBrace :: stringifyMembers members

/-! ## Strings are read back -/

/-- What `parseString` gives for a string with one more unit. -/
def prepend (unit : UInt16) (parsed : CodeUnits × CodeUnits) : CodeUnits × CodeUnits :=
  (unit :: parsed.1, parsed.2)

theorem hexValue_hexDigit : ∀ value < 16, hexValue (hexDigit value) = some value := by
  decide

theorem hexUnit_unicodeEscape (unit : UInt16) :
    hexUnit (hexDigit (unit.toNat / 0x1000)) (hexDigit (unit.toNat / 0x100 % 0x10))
      (hexDigit (unit.toNat / 0x10 % 0x10)) (hexDigit (unit.toNat % 0x10)) = some unit := by
  have bound := unit.toNat_lt
  have isUnit : 0x1000 * (unit.toNat / 0x1000) + 0x100 * (unit.toNat / 0x100 % 0x10) +
      0x10 * (unit.toNat / 0x10 % 0x10) + unit.toNat % 0x10 = unit.toNat := by omega
  simp only [hexUnit, hexValue_hexDigit _ (show unit.toNat / 0x1000 < 16 by omega),
    hexValue_hexDigit _ (Nat.mod_lt _ (show 0x10 > 0 by decide)), Option.bind_eq_bind,
    Option.bind_some, isUnit, UInt16.ofNat_toNat]

theorem parseString_escape
    {escape unit : UInt16}
    (notU : escape ≠ letterU)
    (isEscape : escapes.lookup escape = some unit)
    (rest : CodeUnits) :
    parseString (reverseSolidus :: escape :: rest) = (parseString rest).map (prepend unit) := by
  rw [parseString.eq_def]
  simp only [if_neg (show reverseSolidus ≠ quotationMark by decide), if_pos, if_neg notU, isEscape]
  cases parseString rest <;> rfl

theorem parseString_unicodeEscape (unit : UInt16) (rest : CodeUnits) :
    parseString (unicodeEscape unit ++ rest) = (parseString rest).map (prepend unit) := by
  simp only [unicodeEscape, List.cons_append, List.nil_append]
  rw [parseString.eq_def]
  simp only [if_neg (show reverseSolidus ≠ quotationMark by decide), if_pos, hexUnit_unicodeEscape]
  cases parseString rest <;> rfl

theorem parseString_unit
    {unit : UInt16}
    (notMark : unit ≠ quotationMark)
    (notSolidus : unit ≠ reverseSolidus)
    (printable : ¬ unit < 0x20)
    (rest : CodeUnits) :
    parseString (unit :: rest) = (parseString rest).map (prepend unit) := by
  rw [parseString.eq_def]
  simp only [if_neg notMark, if_neg notSolidus, if_neg printable]
  cases parseString rest <;> rfl

/-- A short escape is read as the unit it stands for. -/
theorem escapes_of_shortEscapes :
    ∀ entry ∈ shortEscapes, entry.2 ≠ letterU ∧ escapes.lookup entry.2 = some entry.1 :=
  List.forall_iff_forall_mem.mp (by decide)

theorem parseString_quoteUnit (unit : UInt16) (rest : CodeUnits) :
    parseString (quoteUnit unit ++ rest) = (parseString rest).map (prepend unit) := by
  unfold quoteUnit
  split
  next escape isEscape =>
    have isEntry : (unit, escape) ∈ shortEscapes := (OrderedMap.lookup_eq_some_iff (by decide)).mp isEscape
    obtain ⟨notU, isUnit⟩ := escapes_of_shortEscapes _ isEntry
    exact parseString_escape notU isUnit rest
  next notShort =>
    split
    · exact parseString_unicodeEscape unit rest
    next plain =>
      simp only [Bool.or_eq_true, decide_eq_true_eq, not_or] at plain
      refine parseString_unit ?_ ?_ plain.1.1 rest
      · rintro rfl
        revert notShort
        decide
      · rintro rfl
        revert notShort
        decide

/-- Units of a surrogate pair are not escaped, and read as they are. -/
theorem parseString_surrogate
    {unit : UInt16}
    (isSurrogate : isLeading unit = true ∨ isTrailing unit = true)
    (rest : CodeUnits) :
    parseString (unit :: rest) = (parseString rest).map (prepend unit) := by
  refine parseString_unit ?_ ?_ ?_ rest
  · rintro rfl
    revert isSurrogate
    decide
  · rintro rfl
    revert isSurrogate
    decide
  · simp only [isLeading, isTrailing, Bool.and_eq_true, decide_eq_true_eq,
      UInt16.le_iff_toNat_le, UInt16.lt_iff_toNat_lt, UInt16.reduceToNat] at isSurrogate ⊢
    omega

theorem parseString_quotationMark (rest : CodeUnits) :
    parseString (quotationMark :: rest) = some ([], rest) := by
  rw [parseString.eq_def]
  simp

/-- A quoted string is read back. -/
theorem parseString_quoteUnits (units rest : CodeUnits) :
    parseString (quoteUnits units ++ quotationMark :: rest) = some (units, rest) := by
  fun_induction quoteUnits units with
  | case1 => exact parseString_quotationMark rest
  | case2 unit =>
      rw [parseString_quoteUnit, parseString_quotationMark]
      rfl
  | case3 first second others isPair ih =>
      rw [Bool.and_eq_true] at isPair
      rw [List.cons_append, List.cons_append, parseString_surrogate (.inl isPair.1),
        parseString_surrogate (.inr isPair.2), ih]
      rfl
  | case4 first second others notPair ih =>
      rw [List.append_assoc, parseString_quoteUnit, ih]
      rfl

/-! ## Integers are read back -/

theorem toNat_ofNat_of_digit {character : Char} (isDigit : character.isDigit = true) :
    (UInt16.ofNat character.toNat).toNat = character.toNat ∧
      0x30 ≤ character.toNat ∧ character.toNat ≤ 0x39 := by
  simp only [Char.isDigit, Bool.and_eq_true, decide_eq_true_eq, UInt32.le_iff_toNat_le] at isDigit
  obtain ⟨low, high⟩ := isDigit
  have low : 0x30 ≤ character.toNat := low
  have high : character.toNat ≤ 0x39 := high
  rw [UInt16.toNat_ofNat', Nat.mod_eq_of_lt (by omega)]
  exact ⟨rfl, low, high⟩

theorem digit_of_mem_toDigits {value : Nat} {character : Char}
    (isDigit : character ∈ Nat.toDigits 10 value) :
    character.isDigit = true :=
  Nat.isDigit_of_mem_toDigits (by decide) (by decide) isDigit

theorem isDigit_of_mem_decimal {value : Nat} {unit : UInt16} (isUnit : unit ∈ decimal value) :
    isDigit unit = true := by
  obtain ⟨character, isCharacter, rfl⟩ := List.mem_map.mp isUnit
  have bounds := toNat_ofNat_of_digit (digit_of_mem_toDigits isCharacter)
  simp only [isDigit, Bool.and_eq_true, decide_eq_true_eq, UInt16.le_iff_toNat_le,
    UInt16.reduceToNat, bounds.1]
  exact bounds.2

theorem decimal_ne_nil (value : Nat) : decimal value ≠ [] := by
  simp [decimal, ascii, Nat.toDigits_ne_nil]

theorem digitsValue_ascii
    {digits : List Char}
    (areDigits : ∀ character ∈ digits, character.isDigit = true)
    (value : Nat) :
    (ascii digits).foldl (fun value unit => 10 * value + (unit.toNat - 0x30)) value =
      digits.foldl (fun value character => 10 * value + (character.toNat - '0'.toNat)) value := by
  induction digits generalizing value with
  | nil => rfl
  | cons first others ih =>
      have isFirst := toNat_ofNat_of_digit (areDigits first List.mem_cons_self)
      have isOthers := ih fun other isOther => areDigits other (List.mem_cons_of_mem _ isOther)
      simp only [ascii, List.map_cons, List.foldl_cons, isFirst.1] at isOthers ⊢
      exact isOthers _

theorem digitsValue_decimal (value : Nat) : digitsValue (decimal value) = value := by
  rw [digitsValue, decimal, digitsValue_ascii (fun _ => digit_of_mem_toDigits),
    ← Nat.ofDigitChars_eq_foldl]
  exact Nat.ofDigitChars_ten_toDigits

/-- Only zero is written with a zero in front. -/
theorem eq_zero_of_head {value : Nat} (leads : (Nat.toDigits 10 value).head? = some '0') :
    value = 0 := by
  induction value using Nat.strongRecOn with
  | ind value ih =>
      rw [Nat.toDigits_eq_if (by decide)] at leads
      split at leads
      next isDigit =>
        revert leads
        interval_cases value <;> decide
      next notDigit =>
        rw [List.head?_append_of_ne_nil _ Nat.toDigits_ne_nil] at leads
        have isZero := ih (value / 10) (by omega) leads
        omega

theorem decimal_head {value : Nat} (leads : (decimal value).head? = some 0x30) :
    (decimal value).length = 1 := by
  obtain ⟨first, isFirst, isZero⟩ : ∃ first,
      (Nat.toDigits 10 value).head? = some first ∧ UInt16.ofNat first.toNat = 0x30 := by
    simpa [decimal, ascii] using leads
  have bounds := toNat_ofNat_of_digit (digit_of_mem_toDigits (List.mem_of_mem_head? isFirst))
  have isCharacter : first = '0' := by
    apply Char.toNat_inj.mp
    rw [← bounds.1, isZero]
    rfl
  have isValue : value = 0 := eq_zero_of_head (isCharacter ▸ isFirst)
  rw [isValue]
  rfl

theorem span_decimal
    {stop : UInt16}
    (notDigit : isDigit stop = false)
    (value : Nat)
    (rest : CodeUnits) :
    (decimal value ++ stop :: rest).span isDigit = (decimal value, stop :: rest) := by
  rw [List.span_eq_takeWhile_dropWhile, List.takeWhile_append_of_pos, List.dropWhile_append_of_pos]
  · simp [notDigit]
  · exact fun _ => isDigit_of_mem_decimal
  · exact fun _ => isDigit_of_mem_decimal

theorem roundToEven_natCast (value : Nat) : roundToEven value = value := by
  have isFloor : (value : ℚ).floor = value := Rat.floor_intCast value
  simp [roundToEven, isFloor]

theorem powerOfTwo_natCast (exponent : Nat) : powerOfTwo exponent = 2 ^ exponent := by
  simp [powerOfTwo]

/-- A positive integer below `2 ^ 53` is a double. -/
theorem roundToDouble_natCast
    {value : Nat}
    (positive : value ≠ 0)
    (small : value < 2 ^ 53) :
    roundToDouble value = value := by
  have leads : 2 ^ value.log2 ≤ value := Nat.log2_self_le positive
  have short : value.log2 < 53 := (Nat.log2_lt positive).mpr small
  have isExponent : leadingExponent value = value.log2 := by
    have isReached : powerOfTwo value.log2 ≤ (value : ℚ) := by
      rw [powerOfTwo_natCast]
      exact_mod_cast leads
    simp only [leadingExponent, Rat.num_natCast, Rat.den_natCast, Int.toNat_natCast,
      show Nat.log2 1 = 0 from rfl, Nat.cast_zero, Int.sub_zero, if_pos isReached]
  have isUlp : powerOfTwo (max (leadingExponent value - 52) (-1074)) =
      1 / 2 ^ (52 - value.log2) := by
    rw [isExponent, max_eq_left (by omega), powerOfTwo]
    split
    next isWhole =>
      have isLast : value.log2 = 52 := by omega
      simp [isLast]
    next => congr 2; omega
  have isScaled : (value : ℚ) / (1 / 2 ^ (52 - value.log2)) =
      ((value * 2 ^ (52 - value.log2) : Nat) : ℚ) := by
    push_cast
    field_simp
  unfold roundToDouble
  simp only [isUlp, isScaled, roundToEven_natCast]
  push_cast
  field_simp

/-- An integer below `2 ^ 53` is read as it is. -/
theorem ofDecimal_integer
    {value : Nat}
    (negative : Bool)
    (small : value < 2 ^ 53) :
    Number.ofDecimal negative value 0 =
      .finite (if negative then -(value : ℚ) else value) := by
  unfold Number.ofDecimal
  by_cases isZero : value = 0
  · simp [isZero]
  · have short : Nat.log 10 value < 53 :=
      Nat.log_lt_of_lt_pow isZero (Nat.lt_of_lt_of_le small (Nat.pow_le_pow_left (by decide) 53))
    have inRange : ¬ powerOfTwo 1024 ≤ (value : ℚ) := by
      have isPower : powerOfTwo 1024 = 2 ^ 1024 := powerOfTwo_natCast 1024
      rw [isPower, not_le]
      exact_mod_cast Nat.lt_of_lt_of_le small (Nat.pow_le_pow_right (by decide) (by decide))
    rw [if_neg (by omega), if_neg (by omega), if_pos (Int.le_refl 0)]
    simp only [Int.toNat_zero, pow_zero, mul_one, roundToDouble_natCast isZero small,
      Number.ofMagnitude, if_neg inRange]

/-- What ends a property in a record. -/
def IsStop (stop : UInt16) : Prop :=
  stop = comma ∨ stop = rightBrace

theorem parseMagnitude_decimal
    {stop : UInt16}
    (isStop : IsStop stop)
    {value : Nat}
    (negative : Bool)
    (small : value < 2 ^ 53)
    (rest : CodeUnits) :
    parseMagnitude negative (decimal value ++ stop :: rest) =
      some (.finite (if negative then -(value : ℚ) else value), stop :: rest) := by
  have notDigit : isDigit stop = false := by rcases isStop with rfl | rfl <;> decide
  have noFraction : parseFraction (stop :: rest) = some ([], stop :: rest) := by
    rcases isStop with rfl | rfl <;> rfl
  have noExponent : parseExponent (stop :: rest) = some (0, stop :: rest) := by
    rcases isStop with rfl | rfl <;> rfl
  have notBad : ¬ (decimal value = [] ∨
      ((decimal value).head? = some 0x30 ∧ (decimal value).length ≠ 1)) := by
    rintro (empty | ⟨leads, notOne⟩)
    · exact decimal_ne_nil value empty
    · exact notOne (decimal_head leads)
  simp only [parseMagnitude, span_decimal notDigit, if_neg notBad, noFraction, noExponent,
    Option.bind_eq_bind, Option.bind_some, List.append_nil, digitsValue_decimal, List.length_nil,
    Nat.cast_zero, Int.sub_zero, ofDecimal_integer negative small]

/-! ## Records are read back -/

theorem skipWhitespace_cons
    {unit : UInt16}
    (notBlank : isWhitespace unit = false)
    (rest : CodeUnits) :
    skipWhitespace (unit :: rest) = unit :: rest := by
  simp [skipWhitespace, notBlank]

theorem ne_of_isDigit
    {digit unit : UInt16}
    (digits : isDigit digit = true)
    (notDigit : isDigit unit = false) :
    digit ≠ unit := by
  rintro rfl
  rw [digits] at notDigit
  cases notDigit

theorem isWhitespace_of_isDigit {digit : UInt16} (digits : isDigit digit = true) :
    isWhitespace digit = false := by
  simp [isWhitespace, ne_of_isDigit digits (show isDigit 0x20 = false by decide),
    ne_of_isDigit digits (show isDigit 0x09 = false by decide),
    ne_of_isDigit digits (show isDigit 0x0A = false by decide),
    ne_of_isDigit digits (show isDigit 0x0D = false by decide)]

theorem afterLiteral_ne
    {first unit : UInt16}
    (differs : unit ≠ first)
    (literal rest : CodeUnits) :
    afterLiteral (first :: literal) (unit :: rest) = none := by
  simp [afterLiteral, List.isPrefixOf, Ne.symm differs]

/-- A number is neither `null`, `true` nor `false`. -/
theorem parsePlain_number
    {unit : UInt16}
    (isNumber : isDigit unit = true ∨ unit = hyphen)
    (rest : CodeUnits) :
    parsePlain (unit :: rest) =
      (parseNumber (unit :: rest)).map fun (number, rest) => (.number number, rest) := by
  have differs : ∀ letter : UInt16, isDigit letter = false → letter ≠ hyphen → unit ≠ letter := by
    rintro letter notDigit notHyphen
    rcases isNumber with digits | rfl
    · exact ne_of_isDigit digits notDigit
    · exact notHyphen.symm
  unfold parsePlain
  rw [show ascii ['n', 'u', 'l', 'l'] = 0x6E :: ascii ['u', 'l', 'l'] from rfl,
    show ascii ['t', 'r', 'u', 'e'] = 0x74 :: ascii ['r', 'u', 'e'] from rfl,
    show ascii ['f', 'a', 'l', 's', 'e'] = 0x66 :: ascii ['a', 'l', 's', 'e'] from rfl,
    afterLiteral_ne (differs 0x6E (by decide) (by decide)),
    afterLiteral_ne (differs 0x74 (by decide) (by decide)),
    afterLiteral_ne (differs 0x66 (by decide) (by decide))]

theorem parseComposite_plain
    {parse : CodeUnits → Option (Value × CodeUnits)}
    {unit : UInt16}
    (isNumber : isDigit unit = true ∨ unit = hyphen)
    (fuel : Nat)
    (rest : CodeUnits) :
    parseComposite parse fuel (unit :: rest) = parsePlain (unit :: rest) := by
  have differs : ∀ mark : UInt16, isDigit mark = false → mark ≠ hyphen → unit ≠ mark := by
    rintro mark notDigit notHyphen
    rcases isNumber with digits | rfl
    · exact ne_of_isDigit digits notDigit
    · exact notHyphen.symm
  simp only [parseComposite, if_neg (differs leftBrace (by decide) (by decide)),
    if_neg (differs leftBracket (by decide) (by decide)),
    if_neg (differs quotationMark (by decide) (by decide))]

theorem decimal_cons (value : Nat) :
    ∃ first others, decimal value = first :: others ∧ isDigit first = true := by
  cases isDecimal : decimal value with
  | nil => exact absurd isDecimal (decimal_ne_nil value)
  | cons first others =>
      exact ⟨first, others, rfl, isDigit_of_mem_decimal (isDecimal ▸ List.mem_cons_self)⟩

theorem parseValue_integer
    {stop : UInt16}
    (isStop : IsStop stop)
    {value : Int}
    (small : value.natAbs < 2 ^ 53)
    (fuel : Nat)
    (rest : CodeUnits) :
    parseValue (fuel + 1) (stringifyProperty (.integer value) ++ stop :: rest) =
      some (.number (.finite value), stop :: rest) := by
  obtain ⟨first, others, isDecimal, isFirst⟩ := decimal_cons value.natAbs
  simp only [stringifyProperty, parseValue]
  split
  next negative =>
    have isValue : -(value.natAbs : ℚ) = value := by
      have isAbs : (value.natAbs : Int) = -value := by omega
      rw [← Int.cast_natCast, isAbs, Int.cast_neg, neg_neg]
    rw [List.cons_append, skipWhitespace_cons (by decide), parseComposite_plain (.inr rfl),
      parsePlain_number (.inr rfl)]
    simp only [parseNumber, if_true, parseMagnitude_decimal isStop true small, Option.map_some,
      isValue]
  next nonnegative =>
    have isValue : (value.natAbs : ℚ) = value := by
      have isAbs : (value.natAbs : Int) = value := by omega
      rw [← Int.cast_natCast, isAbs]
    have notHyphen : first ≠ hyphen := ne_of_isDigit isFirst (by decide)
    have parsed := parseMagnitude_decimal isStop false small rest
    rw [isDecimal, List.cons_append] at parsed ⊢
    rw [skipWhitespace_cons (isWhitespace_of_isDigit isFirst), parseComposite_plain (.inl isFirst),
      parsePlain_number (.inl isFirst)]
    simp only [parseNumber, if_neg notHyphen, parsed, Option.map_some, Bool.false_eq_true,
      if_false, isValue]

theorem parseValue_quote (fuel : Nat) (value rest : CodeUnits) :
    parseValue (fuel + 1) (quote value ++ rest) = some (.string value, rest) := by
  have isText : quote value ++ rest =
      quotationMark :: (quoteUnits value ++ quotationMark :: rest) := by
    simp [quote]
  rw [isText, parseValue, skipWhitespace_cons (by decide)]
  simp only [parseComposite, if_neg (show quotationMark ≠ leftBrace by decide),
    if_neg (show quotationMark ≠ leftBracket by decide), if_true, parseString_quoteUnits,
    Option.map_some]

theorem parseValue_property
    {stop : UInt16}
    (isStop : IsStop stop)
    {property : Property}
    (safe : property.IsSafe)
    (fuel : Nat)
    (rest : CodeUnits) :
    parseValue (fuel + 1) (stringifyProperty property ++ stop :: rest) =
      some (property.toValue, stop :: rest) := by
  cases property with
  | string value => exact parseValue_quote fuel value _
  | integer value => exact parseValue_integer isStop safe fuel rest

theorem parseName_quote (name rest : CodeUnits) :
    parseName (quote name ++ colon :: rest) = some (name, rest) := by
  have isText : quote name ++ colon :: rest =
      quotationMark :: (quoteUnits name ++ quotationMark :: colon :: rest) := by
    simp [quote]
  rw [isText, parseName, skipWhitespace_cons (by decide)]
  simp only [if_true, parseString_quoteUnits, Option.bind_eq_bind, Option.bind_some,
    skipWhitespace_cons (show isWhitespace colon = false by decide)]

/-- The parsed form of a member. -/
def toEntry (member : CodeUnits × Property) : CodeUnits × Value :=
  (member.1, member.2.toValue)

theorem entries_set
    {members : OrderedMap CodeUnits Value}
    {name : CodeUnits}
    (isNew : name ∉ members.entries.map Prod.fst)
    (value : Value) :
    (members.set name value).entries = members.entries ++ [(name, value)] := by
  rw [OrderedMap.set, dif_neg isNew]

theorem parseMembers_member
    {parse : CodeUnits → Option (Value × CodeUnits)}
    {member : CodeUnits × Property}
    {stop : UInt16}
    {rest : CodeUnits}
    (reads : parse (stringifyProperty member.2 ++ stop :: rest) =
      some (member.2.toValue, stop :: rest))
    (isStop : IsStop stop)
    (fuel : Nat)
    (members : OrderedMap CodeUnits Value) :
    parseMembers parse (fuel + 1) members (stringifyMember member ++ stop :: rest) =
      if stop = comma then parseMembers parse fuel (members.set member.1 member.2.toValue) rest
      else some (.object (members.set member.1 member.2.toValue).entries, rest) := by
  have notBlank : isWhitespace stop = false := by rcases isStop with rfl | rfl <;> decide
  have isLast : stop ≠ comma → stop = rightBrace := isStop.resolve_left
  simp only [parseMembers, stringifyMember, List.append_assoc, List.cons_append, parseName_quote,
    Option.bind_eq_bind, Option.bind_some, reads, skipWhitespace_cons notBlank]
  split
  · rfl
  next notComma => rw [if_pos (isLast notComma)]

/-- The members that were written are read back behind those read before. -/
theorem parseMembers_stringify
    {parse : CodeUnits → Option (Value × CodeUnits)}
    (reads : ∀ {stop property}, IsStop stop → property.IsSafe → ∀ rest,
      parse (stringifyProperty property ++ stop :: rest) = some (property.toValue, stop :: rest))
    {written : List (CodeUnits × Property)}
    (notEmpty : written ≠ [])
    (safe : ∀ member ∈ written, member.2.IsSafe)
    {fuel : Nat}
    (enough : written.length ≤ fuel)
    {members : OrderedMap CodeUnits Value}
    (distinct : (members.entries.map Prod.fst ++ written.map Prod.fst).Nodup)
    (rest : CodeUnits) :
    parseMembers parse fuel members (stringifyMembers written ++ rest) =
      some (.object (members.entries ++ written.map toEntry), rest) := by
  induction written generalizing fuel members with
  | nil => exact absurd rfl notEmpty
  | cons member others ih =>
      obtain ⟨fuel, rfl⟩ := Nat.exists_eq_add_one_of_ne_zero
        (Nat.ne_of_gt (Nat.lt_of_lt_of_le (Nat.succ_pos _) enough))
      have isNew : member.1 ∉ members.entries.map Prod.fst := by
        intro isOld
        rw [List.map_cons] at distinct
        exact (List.disjoint_of_nodup_append distinct) isOld List.mem_cons_self
      have isSet := entries_set isNew member.2.toValue
      cases others with
      | nil =>
          simp only [stringifyMembers, List.append_assoc, List.cons_append, List.nil_append]
          rw [parseMembers_member (reads (.inr rfl) (safe _ List.mem_cons_self) _) (.inr rfl),
            if_neg (by decide), isSet]
          rfl
      | cons next later =>
          simp only [stringifyMembers, List.append_assoc, List.cons_append]
          rw [parseMembers_member (reads (.inl rfl) (safe _ List.mem_cons_self) _) (.inl rfl),
            if_pos rfl, ih (List.cons_ne_nil _ _)
              (fun other isOther => safe other (List.mem_cons_of_mem _ isOther))
              (Nat.le_of_succ_le_succ enough)]
          · rw [isSet, List.append_assoc]
            rfl
          · rw [isSet]
            simpa using distinct

theorem length_le_stringifyMembers (written : List (CodeUnits × Property)) :
    written.length ≤ (stringifyMembers written).length := by
  induction written with
  | nil => exact Nat.zero_le _
  | cons member others ih =>
      cases others with
      | nil =>
          simp only [stringifyMembers, List.length_append, List.length_cons, List.length_nil]
          omega
      | cons next later =>
          simp only [stringifyMembers, List.length_append, List.length_cons] at ih ⊢
          omega

/-- What was written is read back. -/
theorem parse_stringify
    {written : List (CodeUnits × Property)}
    (safe : ∀ member ∈ written, member.2.IsSafe)
    (distinct : (written.map Prod.fst).Nodup) :
    parse (stringify written) = some (.object (written.map toEntry)) := by
  cases written with
  | nil => rfl
  | cons member others =>
      have isLong := length_le_stringifyMembers (member :: others)
      obtain ⟨first, isText⟩ : ∃ first,
          stringifyMembers (member :: others) = quotationMark :: first := by
        cases others <;> exact ⟨_, rfl⟩
      have isDistinct :
          ((OrderedMap.empty : OrderedMap CodeUnits Value).entries.map Prod.fst ++
            (member :: others).map Prod.fst).Nodup := by
        simpa [OrderedMap.empty] using distinct
      have parsed := parseMembers_stringify
        (fun isStop isSafe rest => parseValue_property isStop isSafe
          (stringifyMembers (member :: others)).length rest)
        (List.cons_ne_nil _ _) safe (Nat.le_succ_of_le isLong) isDistinct []
      rw [List.append_nil] at parsed
      have enough : (stringify (member :: others)).length <
          (stringifyMembers (member :: others)).length + 2 := by
        rw [stringify, List.length_cons]
        omega
      rw [parse_eq enough, stringify, parseValue, skipWhitespace_cons (by decide)]
      rw [isText] at parsed ⊢
      simp only [parseComposite, if_true, skipWhitespace_cons
        (show isWhitespace quotationMark = false by decide),
        if_neg (show quotationMark ≠ rightBrace by decide)]
      rw [parsed]
      rfl

/-! ## Records are encoded without loss -/

theorem hexDigit_lt : ∀ value < 16, (hexDigit value).toNat < 0xD800 := by
  decide

theorem wellFormed_unicodeEscape (unit : UInt16) : WellFormed (unicodeEscape unit) := by
  have bound := unit.toNat_lt
  apply WellFormed.of_lt
  simp only [unicodeEscape, List.mem_cons, List.not_mem_nil, or_false, forall_eq_or_imp, forall_eq]
  exact ⟨by decide, by decide, hexDigit_lt _ (by omega), hexDigit_lt _ (Nat.mod_lt _ (by decide)),
    hexDigit_lt _ (Nat.mod_lt _ (by decide)), hexDigit_lt _ (Nat.mod_lt _ (by decide))⟩

theorem shortEscapes_lt : ∀ entry ∈ shortEscapes, entry.2.toNat < 0xD800 :=
  List.forall_iff_forall_mem.mp (by decide)

theorem wellFormed_quoteUnit (unit : UInt16) : WellFormed (quoteUnit unit) := by
  unfold quoteUnit
  split
  next escape isEscape =>
    have isEntry := (OrderedMap.lookup_eq_some_iff (by decide)).mp isEscape
    apply WellFormed.of_lt
    simp only [List.mem_cons, List.not_mem_nil, or_false, forall_eq_or_imp, forall_eq]
    exact ⟨by decide, shortEscapes_lt _ isEntry⟩
  next =>
    split
    · exact wellFormed_unicodeEscape unit
    next plain =>
      simp only [Bool.or_eq_true, not_or, Bool.not_eq_true] at plain
      exact .unit plain.1.2 plain.2 .nil

theorem wellFormed_quoteUnits (units : CodeUnits) : WellFormed (quoteUnits units) := by
  fun_induction quoteUnits units with
  | case1 => exact .nil
  | case2 unit => exact wellFormed_quoteUnit unit
  | case3 first second others isPair ih =>
      rw [Bool.and_eq_true] at isPair
      exact .pair isPair.1 isPair.2 ih
  | case4 first second others notPair ih => exact (wellFormed_quoteUnit first).append ih

theorem wellFormed_mark
    {mark : UInt16}
    (below : mark.toNat < 0xD800)
    {rest : CodeUnits}
    (formed : WellFormed rest) : WellFormed (mark :: rest) :=
  .unit (not_surrogate_of_lt below).1 (not_surrogate_of_lt below).2 formed

theorem wellFormed_quote (units : CodeUnits) : WellFormed (quote units) :=
  wellFormed_mark (by decide)
    ((wellFormed_quoteUnits units).append (wellFormed_mark (by decide) .nil))

theorem wellFormed_decimal (value : Nat) : WellFormed (decimal value) := by
  apply WellFormed.of_lt
  intro unit isUnit
  have digits := isDigit_of_mem_decimal isUnit
  simp only [isDigit, Bool.and_eq_true, decide_eq_true_eq, UInt16.le_iff_toNat_le,
    UInt16.reduceToNat] at digits
  omega

theorem wellFormed_stringifyProperty (property : Property) :
    WellFormed (stringifyProperty property) := by
  cases property with
  | string value => exact wellFormed_quote value
  | integer value =>
      simp only [stringifyProperty]
      split
      · exact wellFormed_mark (by decide) (wellFormed_decimal _)
      · exact wellFormed_decimal _

theorem wellFormed_stringifyMember (member : CodeUnits × Property) :
    WellFormed (stringifyMember member) :=
  (wellFormed_quote _).append (wellFormed_mark (by decide) (wellFormed_stringifyProperty _))

theorem wellFormed_stringify (written : List (CodeUnits × Property)) :
    WellFormed (stringify written) := by
  refine wellFormed_mark (by decide) ?_
  induction written with
  | nil => exact wellFormed_mark (by decide) .nil
  | cons member others ih =>
      cases others with
      | nil => exact (wellFormed_stringifyMember member).append (wellFormed_mark (by decide) .nil)
      | cons next later =>
          exact (wellFormed_stringifyMember member).append (wellFormed_mark (by decide) ih)

/-- No byte order mark leads a record. -/
theorem textDecode_stringify (written : List (CodeUnits × Property)) :
    textDecode (textEncode (stringify written)) = some (stringify written) := by
  refine textDecode_textEncode (wellFormed_stringify written) ?_
  rw [stringify, scalars_cons (by decide)]
  rfl

end Unseen.Json
