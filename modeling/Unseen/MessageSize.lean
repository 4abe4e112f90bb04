import Unseen.Wire

namespace Unseen

/-!
# The size of a composed message

The composer limits the UTF-8 length of a body, the encoder the UTF-8 length of
the JSON text it goes into.  Between the two lie the escapes: a quote, a
backslash or a whitespace control becomes two bytes, every other control six, and
a lone surrogate, for which three bytes are counted, becomes six as well.
-/

/-- A code unit that `JSON.stringify` writes as a backslash and a letter. -/
def isShortEscape (unit : UInt16) : Bool :=
  unit == 0x22 || unit == 0x5C || unit == 0x08 || unit == 0x09 || unit == 0x0A ||
    unit == 0x0C || unit == 0x0D

/-- A control that `JSON.stringify` writes with four hexadecimal digits. -/
def isControlEscape (unit : UInt16) : Bool :=
  unit < 0x20 && !isShortEscape unit

/-- The surrogates of a string that are not part of a pair. -/
def loneSurrogates : Text → Nat
  | [] => 0
  | [unit] => if isHighSurrogate unit || isLowSurrogate unit then 1 else 0
  | first :: second :: rest =>
      if isHighSurrogate first && isLowSurrogate second then
        loneSurrogates rest
      else
        (if isHighSurrogate first || isLowSurrogate first then 1 else 0) +
          loneSurrogates (second :: rest)

/-- What the escapes add to the UTF-8 length of a string. -/
def escapeGrowth (text : Text) : Nat :=
  text.countP isShortEscape + 5 * text.countP isControlEscape + 3 * loneSurrogates text

/-! ## Timestamps -/

/-- A decimal digit, or the character that has to stand there. -/
def fitsTemplate : Option UInt16 → UInt16 → Bool
  | none, unit => 0x30 ≤ unit && unit ≤ 0x39
  | some expected, unit => unit == expected

def matchesTemplate (template : List (Option UInt16)) (text : Text) : Bool :=
  template.length == text.length && (template.zip text).all fun pair => fitsTemplate pair.1 pair.2

/-- What follows the year: `-MM-DDTHH:mm:ss.sssZ`. -/
def isoTail : List (Option UInt16) :=
  [some 0x2D, none, none, some 0x2D, none, none, some 0x54, none, none, some 0x3A, none, none,
    some 0x3A, none, none, some 0x2E, none, none, none, some 0x5A]

/-- The formats of `toISOString`: a year of four digits, or a sign and six. -/
def isoTemplates : List (List (Option UInt16)) :=
  [[none, none, none, none] ++ isoTail,
    some 0x2B :: [none, none, none, none, none, none] ++ isoTail,
    some 0x2D :: [none, none, none, none, none, none] ++ isoTail]

/-- An ISO timestamp. -/
def isIsoTimestamp (text : Text) : Bool :=
  isoTemplates.any fun template => matchesTemplate template text

/-! ## Escapes and lengths -/

/-- Outside ASCII there are no escapes but those of surrogates. -/
theorem noEscape_of_not_ascii {unit : UInt16} (notAscii : 0x80 ≤ unit.toNat) :
    isShortEscape unit = false ∧ isControlEscape unit = false := by
  have ne (value : Nat) (isAscii : value < 0x80) : unit ≠ UInt16.ofNat value := by
    rintro rfl
    rw [UInt16.toNat_ofNat'] at notAscii
    omega
  have notShort : isShortEscape unit = false := by
    simp only [isShortEscape, Bool.or_eq_false_iff, beq_eq_false_iff_ne]
    exact ⟨⟨⟨⟨⟨⟨ne 0x22 (by decide), ne 0x5C (by decide)⟩, ne 0x08 (by decide)⟩,
      ne 0x09 (by decide)⟩, ne 0x0A (by decide)⟩, ne 0x0C (by decide)⟩, ne 0x0D (by decide)⟩
  have notControl : ¬unit < 0x20 := by
    simp only [UInt16.lt_iff_toNat_lt, UInt16.reduceToNat]
    omega
  exact ⟨notShort, by simp [isControlEscape, notControl]⟩

theorem surrogate_range {unit : UInt16}
    (isSurrogate : (isHighSurrogate unit || isLowSurrogate unit) = true) :
    0xD800 ≤ unit.toNat := by
  simp only [isHighSurrogate, isLowSurrogate, Bool.or_eq_true, Bool.and_eq_true,
    decide_eq_true_eq, UInt16.le_iff_toNat_le, UInt16.reduceToNat] at isSurrogate
  omega

/-- The escape of a code unit that is not part of a surrogate pair. -/
theorem jsonUnitLength_eq (unit : UInt16) :
    jsonUnitLength unit =
      utf8UnitLength unit + (if isShortEscape unit then 1 else 0) +
        5 * (if isControlEscape unit then 1 else 0) +
        3 * (if isHighSurrogate unit || isLowSurrogate unit then 1 else 0) := by
  have ofAscii : ∀ value < 0x80, jsonUnitLength (UInt16.ofNat value) =
      utf8UnitLength (UInt16.ofNat value) +
        (if isShortEscape (UInt16.ofNat value) then 1 else 0) +
        5 * (if isControlEscape (UInt16.ofNat value) then 1 else 0) +
        3 * (if isHighSurrogate (UInt16.ofNat value) || isLowSurrogate (UInt16.ofNat value)
          then 1 else 0) := by
    decide
  by_cases isAscii : unit.toNat < 0x80
  · have isUnit := ofAscii unit.toNat isAscii
    rwa [UInt16.ofNat_toNat] at isUnit
  · obtain ⟨notShort, notControl⟩ := noEscape_of_not_ascii (Nat.le_of_not_lt isAscii)
    have notLow : ¬unit < 0x20 := by
      simp only [UInt16.lt_iff_toNat_lt, UInt16.reduceToNat]
      omega
    simp only [isShortEscape, Bool.or_eq_false_iff, beq_eq_false_iff_ne] at notShort
    have plain : jsonUnitLength unit =
        if isHighSurrogate unit || isLowSurrogate unit then 6 else utf8UnitLength unit := by
      simp [jsonUnitLength, notShort, notLow]
    have notShort' : isShortEscape unit = false := by simp [isShortEscape, notShort]
    rw [plain, notShort', notControl]
    split
    · case isTrue isSurrogate =>
        have high := surrogate_range isSurrogate
        have isThree : utf8UnitLength unit = 3 := by
          simp only [utf8UnitLength, UInt16.lt_iff_toNat_lt, UInt16.reduceToNat]
          rw [if_neg (by omega), if_neg (by omega)]
        rw [isThree]
        rfl
    · rfl

/-- The units of a surrogate pair are not escaped. -/
theorem noEscape_of_surrogate
    {unit : UInt16}
    (isSurrogate : (isHighSurrogate unit || isLowSurrogate unit) = true) :
    isShortEscape unit = false ∧ isControlEscape unit = false := by
  have high := surrogate_range isSurrogate
  exact noEscape_of_not_ascii (by omega)

theorem escapeGrowth_cons_lone
    {first second : UInt16}
    {rest : Text}
    (notPair : (isHighSurrogate first && isLowSurrogate second) = false) :
    escapeGrowth (first :: second :: rest) =
      (if isShortEscape first then 1 else 0) + 5 * (if isControlEscape first then 1 else 0) +
        3 * (if isHighSurrogate first || isLowSurrogate first then 1 else 0) +
        escapeGrowth (second :: rest) := by
  have lone : loneSurrogates (first :: second :: rest) =
      (if isHighSurrogate first || isLowSurrogate first then 1 else 0) +
        loneSurrogates (second :: rest) := by
    rw [loneSurrogates, if_neg (by simp [notPair])]
  simp only [escapeGrowth, lone, List.countP_cons]
  omega

theorem escapeGrowth_cons_pair
    {first second : UInt16}
    {rest : Text}
    (isPair : (isHighSurrogate first && isLowSurrogate second) = true) :
    escapeGrowth (first :: second :: rest) = escapeGrowth rest := by
  have ⟨isHigh, isLow⟩ := Bool.and_eq_true_iff.mp isPair
  obtain ⟨firstShort, firstControl⟩ := noEscape_of_surrogate (Bool.or_eq_true_iff.mpr (.inl isHigh))
  obtain ⟨secondShort, secondControl⟩ := noEscape_of_surrogate (Bool.or_eq_true_iff.mpr (.inr isLow))
  have lone : loneSurrogates (first :: second :: rest) = loneSurrogates rest := by
    rw [loneSurrogates, if_pos isPair]
  simp [escapeGrowth, lone, firstShort, firstControl, secondShort, secondControl]

/-- The escaped text is longer by its escapes. -/
theorem jsonTextLength_eq (text : Text) :
    jsonTextLength text = utf8ByteLength text + escapeGrowth text := by
  induction text using jsonTextLength.induct with
  | case1 => rfl
  | case2 unit =>
      rw [jsonTextLength, utf8ByteLength, jsonUnitLength_eq]
      simp only [escapeGrowth, List.countP_cons, List.countP_nil, loneSurrogates]
      omega
  | case3 first second rest isPair inductionHypothesis =>
      rw [jsonTextLength, utf8ByteLength, if_pos isPair, if_pos isPair,
        escapeGrowth_cons_pair isPair, inductionHypothesis]
      omega
  | case4 first second rest notPair inductionHypothesis =>
      rw [jsonTextLength, utf8ByteLength, if_neg notPair, if_neg notPair,
        escapeGrowth_cons_lone (Bool.eq_false_iff.mpr notPair), inductionHypothesis,
        jsonUnitLength_eq]
      omega

/-! ## Timestamps have no escapes -/

/-- A character of a timestamp: a digit, or one of `-`, `+`, `:`, `.`, `T` and `Z`. -/
def isPlainUnit (unit : UInt16) : Bool :=
  jsonUnitLength unit == 1

/-- The characters that the formats require are written as they are. -/
def isPlainTemplate (template : List (Option UInt16)) : Bool :=
  template.all fun expected => expected.all isPlainUnit

theorem isPlainTemplate_isoTemplates : ∀ template ∈ isoTemplates, isPlainTemplate template := by
  decide

theorem isPlainUnit_of_fitsTemplate
    {expected : Option UInt16}
    {unit : UInt16}
    (isPlain : expected.all isPlainUnit)
    (fits : fitsTemplate expected unit) :
    isPlainUnit unit := by
  cases expected with
  | some other =>
      have isOther : unit = other := beq_iff_eq.mp fits
      rw [isOther]
      exact isPlain
  | none =>
      have ofDigit : ∀ value < 0x3A, 0x30 ≤ value → isPlainUnit (UInt16.ofNat value) := by decide
      simp only [fitsTemplate, Bool.and_eq_true, decide_eq_true_eq, UInt16.le_iff_toNat_le,
        UInt16.reduceToNat] at fits
      have isUnit := ofDigit unit.toNat (by omega) (by omega)
      rwa [UInt16.ofNat_toNat] at isUnit

/-- A text without escapes outside ASCII is as long as it has code units. -/
theorem jsonTextLength_of_plain {text : Text} (isPlain : ∀ unit ∈ text, isPlainUnit unit) :
    jsonTextLength text = text.length := by
  induction text using jsonTextLength.induct with
  | case1 => rfl
  | case2 unit =>
      rw [jsonTextLength]
      exact beq_iff_eq.mp (isPlain unit List.mem_cons_self)
  | case3 first second rest isPair inductionHypothesis =>
      have isUnit := beq_iff_eq.mp (isPlain first List.mem_cons_self)
      have isSurrogate : (isHighSurrogate first || isLowSurrogate first) = true :=
        Bool.or_eq_true_iff.mpr (.inl (Bool.and_eq_true_iff.mp isPair).1)
      rw [jsonUnitLength_eq, if_pos isSurrogate] at isUnit
      omega
  | case4 first second rest notPair inductionHypothesis =>
      rw [jsonTextLength, if_neg notPair, beq_iff_eq.mp (isPlain first List.mem_cons_self),
        inductionHypothesis fun unit isUnit => isPlain unit (List.mem_cons_of_mem _ isUnit)]
      exact Nat.add_comm _ _

theorem isPlain_of_matchesTemplate
    {template : List (Option UInt16)}
    {text : Text}
    (isPlain : isPlainTemplate template)
    (isMatch : matchesTemplate template text) :
    ∀ unit ∈ text, isPlainUnit unit := by
  obtain ⟨sameLength, allFit⟩ := Bool.and_eq_true_iff.mp isMatch
  rw [beq_iff_eq] at sameLength
  induction template generalizing text with
  | nil =>
      rw [List.eq_nil_of_length_eq_zero sameLength.symm]
      exact nofun
  | cons expected template inductionHypothesis =>
      cases text with
      | nil => cases sameLength
      | cons first text =>
          simp only [List.zip_cons_cons, List.all_cons, Bool.and_eq_true] at allFit
          simp only [isPlainTemplate, List.all_cons, Bool.and_eq_true] at isPlain
          have lengths := Nat.succ.inj sameLength
          have tailMatches : matchesTemplate template text := by
            simp only [matchesTemplate, Bool.and_eq_true, beq_iff_eq]
            exact ⟨lengths, allFit.2⟩
          intro unit isUnit
          rcases List.mem_cons.mp isUnit with rfl | isLater
          · exact isPlainUnit_of_fitsTemplate isPlain.1 allFit.1
          · exact inductionHypothesis isPlain.2 tailMatches lengths allFit.2 unit isLater

theorem jsonTextLength_of_isIsoTimestamp {t : Text} (isIso : isIsoTimestamp t) :
    jsonTextLength t = t.length := by
  obtain ⟨template, isTemplate, isMatch⟩ := List.any_eq_true.mp isIso
  exact jsonTextLength_of_plain
    (isPlain_of_matchesTemplate (isPlainTemplate_isoTemplates template isTemplate) isMatch)

/-! ## The composed message -/

theorem jsonByteLength_msg (body t : Text) :
    jsonByteLength (.msg body t) = 31 + jsonTextLength body + jsonTextLength t := by
  simp only [jsonByteLength, stringMemberLength]
  omega

/-- A body that the composer accepts can be sent exactly if its escapes fit beside it. -/
theorem encodeEnvelope_msg_isSome_iff
    (body t : Text)
    (isIso : isIsoTimestamp t)
    (accepted : utf8ByteLength body ≤ maxBodyBytes) :
    (encodeEnvelope (.msg body t)).isSome ↔
      utf8ByteLength body + escapeGrowth body + t.length ≤ 8673 := by
  have notTooLong : bodyTooLong (.msg body t) = false := decide_eq_false (by omega)
  have size : jsonByteLength (.msg body t) =
      31 + (utf8ByteLength body + escapeGrowth body) + t.length := by
    rw [jsonByteLength_msg, jsonTextLength_eq body, jsonTextLength_of_isIsoTimestamp isIso]
  rw [encodeEnvelope, if_neg (by simp [notTooLong]), size]
  split
  · case isTrue tooLong =>
      simp only [maxPlaintextBytes] at tooLong
      simp only [Option.isSome_none, Bool.false_eq_true, false_iff]
      omega
  · case isFalse fits =>
      simp only [maxPlaintextBytes] at fits
      simp only [Option.isSome_some, true_iff]
      omega

/-- `2026-05-15T00:00:00.000Z` -/
def sampleTimestamp : Text :=
  [0x32, 0x30, 0x32, 0x36, 0x2D, 0x30, 0x35, 0x2D, 0x31, 0x35, 0x54, 0x30, 0x30, 0x3A, 0x30,
    0x30, 0x3A, 0x30, 0x30, 0x2E, 0x30, 0x30, 0x30, 0x5A]

/-- A greeting in quotation marks, and the end of its line: three units are escaped. -/
theorem encodeEnvelope_msg_isSome_of_greeting :
    isIsoTimestamp sampleTimestamp ∧ utf8ByteLength [0x22, 0x68, 0x69, 0x22, 0x0A] ≤ maxBodyBytes ∧
      escapeGrowth [0x22, 0x68, 0x69, 0x22, 0x0A] = 3 ∧
      ((encodeEnvelope (.msg [0x22, 0x68, 0x69, 0x22, 0x0A] sampleTimestamp)).isSome ↔
        utf8ByteLength [0x22, 0x68, 0x69, 0x22, 0x0A] +
            escapeGrowth [0x22, 0x68, 0x69, 0x22, 0x0A] + sampleTimestamp.length ≤ 8673) :=
  ⟨by decide, by decide, by decide,
    encodeEnvelope_msg_isSome_iff [0x22, 0x68, 0x69, 0x22, 0x0A] sampleTimestamp (by decide)
      (by decide)⟩

/-- A body of 1500 controls is accepted by the composer and refused by the encoder. -/
theorem not_every_accepted_body_encodes :
    ¬∀ body t : Text, isIsoTimestamp t → utf8ByteLength body ≤ maxBodyBytes →
      (encodeEnvelope (.msg body t)).isSome := by
  intro everyEncodes
  have encodes := everyEncodes (List.replicate 1500 1) sampleTimestamp (by decide)
    (by decide +kernel)
  have refused : (encodeEnvelope (.msg (List.replicate 1500 1) sampleTimestamp)).isSome = false := by
    decide +kernel
  rw [refused] at encodes
  cases encodes

end Unseen
