import Unseen.Filename

namespace Unseen

/-!
# Sanitised filenames

What holds of a name that `sanitizeFilename` returns, and when sanitising it
again leaves it alone.  Normalisation is a parameter with the facts about it that
matter here.
-/

/-- Characters that a filename loses. -/
def isForbidden (unit : UInt16) : Bool :=
  isBidiControl unit || isInvisibleInFilename unit || isControl unit || isPathSeparator unit

/-- A text without forbidden characters. -/
def Clean (text : Text) : Prop :=
  ∀ unit ∈ text, isForbidden unit = false

/-- The characters of a text that a filename keeps, with underscores for those that
are replaced. -/
def scrub (text : Text) : Text :=
  replaceByUnderscore isPathSeparator
    (replaceByUnderscore isControl
      ((text.filter fun unit => !isBidiControl unit).filter fun unit =>
        !isInvisibleInFilename unit))

/-- What of a name is kept, before an underscore is put in front of it: the scrubbed
characters of its normal form that fit the limit. -/
def keptName (normalizeNfc : Text → Text) (name : Text) : Text :=
  truncateUtf8 (scrub (normalizeNfc name)) filenameByteCap

/-- Facts about Unicode's normal form C.  It is idempotent, makes no forbidden
characters from others, is closed under truncation, and composes neither an
underscore nor a full stop with what is next to it. -/
structure NormalizesNfc (normalizeNfc : Text → Text) : Prop where
  idempotent : ∀ text, normalizeNfc (normalizeNfc text) = normalizeNfc text
  clean : ∀ text, Clean text → Clean (normalizeNfc text)
  truncated : ∀ text maxBytes, normalizeNfc text = text →
    normalizeNfc (truncateUtf8 text maxBytes) = truncateUtf8 text maxBytes
  underscored : ∀ text, text.head? = some fullStop →
    (normalizeNfc (underscore :: text) = underscore :: text ↔ normalizeNfc text = text)

/-- A name that can be kept as it is: not empty, of at most 255 bytes, without
forbidden characters and without a full stop in front. -/
structure SafeFilename (name : Text) : Prop where
  notEmpty : name ≠ []
  fits : utf8ByteLength name ≤ filenameByteCap
  clean : Clean name
  notHidden : name.head? ≠ some fullStop

/-! ## Cutting to a limit -/

theorem isForbidden_replacement : isForbidden 0xFFFD = false := by
  decide

theorem isForbidden_underscore : isForbidden underscore = false := by
  decide

theorem utf8UnitLength_surrogate
    {unit : UInt16}
    (isSurrogate : (isHighSurrogate unit || isLowSurrogate unit) = true) :
    utf8UnitLength unit = 3 := by
  have isHigh : 0xD800 ≤ unit.toNat := by
    simp only [isHighSurrogate, isLowSurrogate, Bool.or_eq_true, Bool.and_eq_true,
      decide_eq_true_eq, UInt16.le_iff_toNat_le] at isSurrogate
    rcases isSurrogate with ⟨isHigh, -⟩ | ⟨isLow, -⟩
    · exact isHigh
    · exact Nat.le_trans (show 0xD800 ≤ 0xDC00 by decide) isLow
  have notSmall : ¬ unit < 0x80 := by
    rw [UInt16.lt_iff_toNat_lt, Nat.not_lt]
    exact Nat.le_trans (by decide) isHigh
  have notShort : ¬ unit < 0x800 := by
    rw [UInt16.lt_iff_toNat_lt, Nat.not_lt]
    exact Nat.le_trans (by decide) isHigh
  rw [utf8UnitLength, if_neg notSmall, if_neg notShort]

/-- The length of a text that does not begin with a surrogate pair. -/
theorem utf8ByteLength_cons
    {unit : UInt16}
    (notHigh : isHighSurrogate unit = false)
    (rest : Text) :
    utf8ByteLength (unit :: rest) = utf8UnitLength unit + utf8ByteLength rest := by
  cases rest with
  | nil => rfl
  | cons second rest => rw [utf8ByteLength, if_neg (by simp [notHigh])]

theorem utf8ByteLength_decodePrefix (budget : Nat) (text : Text) :
    utf8ByteLength (decodePrefix budget text) ≤ budget := by
  induction budget, text using decodePrefix.induct with
  | case1 budget => exact Nat.zero_le _
  | case2 budget unit fits isSurrogate =>
      rw [decodePrefix, if_pos fits, if_pos isSurrogate]
      rwa [utf8UnitLength_surrogate isSurrogate] at fits
  | case3 budget unit fits notSurrogate =>
      rw [decodePrefix, if_pos fits, if_neg notSurrogate]
      exact fits
  | case4 budget unit tooLong =>
      rw [decodePrefix, if_neg tooLong]
      exact Nat.zero_le _
  | case5 budget first second rest isPair fits ih =>
      rw [decodePrefix, if_pos isPair, if_pos fits, utf8ByteLength, if_pos isPair]
      omega
  | case6 budget first second rest isPair tooLong =>
      rw [decodePrefix, if_pos isPair, if_neg tooLong]
      exact Nat.zero_le _
  | case7 budget first second rest notPair fits ih =>
      rw [decodePrefix, if_neg notPair, if_pos fits]
      by_cases isSurrogate : (isHighSurrogate first || isLowSurrogate first) = true
      · rw [if_pos isSurrogate, utf8ByteLength_cons (by decide)]
        rw [utf8UnitLength_surrogate isSurrogate] at fits ih ⊢
        have isLength : utf8UnitLength 0xFFFD = 3 := by decide
        omega
      · rw [Bool.not_eq_true, Bool.or_eq_false_iff] at isSurrogate
        rw [if_neg (by simp [isSurrogate]), utf8ByteLength_cons isSurrogate.1]
        omega
  | case8 budget first second rest notPair tooLong =>
      rw [decodePrefix, if_neg notPair, if_neg tooLong]
      exact Nat.zero_le _

theorem utf8ByteLength_truncateUtf8 (text : Text) (maxBytes : Nat) :
    utf8ByteLength (truncateUtf8 text maxBytes) ≤ maxBytes := by
  rw [truncateUtf8]
  split
  next fits => exact fits
  next => exact utf8ByteLength_decodePrefix maxBytes text

/-- A prefix has no other units than the text, but for replacement characters. -/
theorem mem_decodePrefix
    {budget : Nat}
    {text : Text}
    {unit : UInt16}
    (isUnit : unit ∈ decodePrefix budget text) :
    unit ∈ text ∨ unit = 0xFFFD := by
  induction budget, text using decodePrefix.induct with
  | case1 budget => cases isUnit
  | case2 budget first fits isSurrogate =>
      rw [decodePrefix, if_pos fits, if_pos isSurrogate, List.mem_singleton] at isUnit
      exact .inr isUnit
  | case3 budget first fits notSurrogate =>
      rw [decodePrefix, if_pos fits, if_neg notSurrogate] at isUnit
      exact .inl isUnit
  | case4 budget first tooLong =>
      rw [decodePrefix, if_neg tooLong] at isUnit
      cases isUnit
  | case5 budget first second rest isPair fits ih =>
      rw [decodePrefix, if_pos isPair, if_pos fits, List.mem_cons, List.mem_cons] at isUnit
      rcases isUnit with rfl | rfl | isUnit
      · exact .inl (by simp)
      · exact .inl (by simp)
      · exact (ih isUnit).imp_left fun inRest => by simp [inRest]
  | case6 budget first second rest isPair tooLong =>
      rw [decodePrefix, if_pos isPair, if_neg tooLong] at isUnit
      cases isUnit
  | case7 budget first second rest notPair fits ih =>
      rw [decodePrefix, if_neg notPair, if_pos fits, List.mem_cons] at isUnit
      rcases isUnit with rfl | isUnit
      · split
        · exact .inr rfl
        · exact .inl (by simp)
      · exact (ih isUnit).imp_left (List.mem_cons_of_mem _)
  | case8 budget first second rest notPair tooLong =>
      rw [decodePrefix, if_neg notPair, if_neg tooLong] at isUnit
      cases isUnit

theorem Clean.truncateUtf8 {text : Text} (clean : Clean text) (maxBytes : Nat) :
    Clean (truncateUtf8 text maxBytes) := by
  rw [Unseen.truncateUtf8]
  split
  next => exact clean
  next =>
    intro unit isUnit
    rcases mem_decodePrefix isUnit with inText | rfl
    · exact clean unit inText
    · exact isForbidden_replacement

/-! ## Scrubbing -/

theorem clean_scrub (text : Text) : Clean (scrub text) := by
  intro unit isUnit
  obtain ⟨second, isSecond, rfl⟩ := List.mem_map.mp isUnit
  obtain ⟨first, isFirst, rfl⟩ := List.mem_map.mp isSecond
  obtain ⟨isFirst, visible⟩ := List.mem_filter.mp isFirst
  have notBidi := (List.mem_filter.mp isFirst).2
  rw [Bool.not_eq_true'] at visible notBidi
  by_cases control : isControl first = true
  · rw [if_pos control]
    decide
  · rw [if_neg control]
    split
    next => exact isForbidden_underscore
    next notSeparator => simp [isForbidden, notBidi, visible, control, notSeparator]

theorem replaceByUnderscore_of_none
    {test : UInt16 → Bool}
    {text : Text}
    (none : ∀ unit ∈ text, test unit = false) :
    replaceByUnderscore test text = text := by
  refine (List.map_congr_left fun unit isUnit => ?_).trans (List.map_id _)
  rw [none unit isUnit]
  rfl

/-- A clean text has nothing to lose. -/
theorem Clean.scrub {text : Text} (clean : Clean text) : scrub text = text := by
  have each : ∀ unit ∈ text, isBidiControl unit = false ∧ isInvisibleInFilename unit = false ∧
      isControl unit = false ∧ isPathSeparator unit = false := by
    intro unit isUnit
    simpa [isForbidden, and_assoc] using clean unit isUnit
  have noBidi : (text.filter fun unit => !isBidiControl unit) = text :=
    List.filter_eq_self.mpr fun unit isUnit => by simp [(each unit isUnit).1]
  have noInvisible : (text.filter fun unit => !isInvisibleInFilename unit) = text :=
    List.filter_eq_self.mpr fun unit isUnit => by simp [(each unit isUnit).2.1]
  rw [Unseen.scrub, noBidi, noInvisible,
    replaceByUnderscore_of_none fun unit isUnit => (each unit isUnit).2.2.1,
    replaceByUnderscore_of_none fun unit isUnit => (each unit isUnit).2.2.2]

/-! ## Sanitising -/

section Sanitising

variable {normalizeNfc : Text → Text} {name result : Text}

theorem truncateUtf8_of_fits {text : Text} {maxBytes : Nat} (fits : utf8ByteLength text ≤ maxBytes) :
    truncateUtf8 text maxBytes = text :=
  if_pos fits

theorem isReservedName_iff (name : Text) :
    isReservedName name = true ↔ name = [] ∨ name = [fullStop] ∨ name = [fullStop, fullStop] := by
  simp [isReservedName, or_assoc]

/-- Reserved names are short. -/
theorem utf8ByteLength_reserved (isReserved : isReservedName name = true) :
    utf8ByteLength name ≤ filenameByteCap := by
  rcases (isReservedName_iff name).mp isReserved with rfl | rfl | rfl
  all_goals decide

/-- The three outcomes, by what is kept of the name. -/
theorem sanitizeFilename_eq (normalizeNfc : Text → Text) (name : Text) :
    sanitizeFilename normalizeNfc name =
      if isReservedName (keptName normalizeNfc name) = true then none
      else if (keptName normalizeNfc name).head? = some fullStop then
        some (underscore :: keptName normalizeNfc name)
      else some (keptName normalizeNfc name) := by
  change (if isReservedName (scrub (normalizeNfc name)) = true then none else _) = _
  by_cases isReserved : isReservedName (scrub (normalizeNfc name)) = true
  · have same : keptName normalizeNfc name = scrub (normalizeNfc name) :=
      truncateUtf8_of_fits (utf8ByteLength_reserved isReserved)
    rw [if_pos isReserved, same, if_pos isReserved]
  · rw [if_neg isReserved]
    rfl

theorem clean_keptName (normalizeNfc : Text → Text) (name : Text) :
    Clean (keptName normalizeNfc name) :=
  (clean_scrub _).truncateUtf8 _

theorem utf8ByteLength_underscore (text : Text) :
    utf8ByteLength (underscore :: text) = 1 + utf8ByteLength text :=
  utf8ByteLength_cons (by decide) text

/-- A safe name in normal form is left alone. -/
theorem SafeFilename.sanitizeFilename
    (safe : SafeFilename name)
    (normal : normalizeNfc name = name) :
    sanitizeFilename normalizeNfc name = some name := by
  have same : keptName normalizeNfc name = name := by
    rw [keptName, normal, safe.clean.scrub, truncateUtf8_of_fits safe.fits]
  have notReserved : ¬ isReservedName name = true := by
    rw [isReservedName_iff]
    rintro (isEmpty | rfl | rfl)
    · exact safe.notEmpty isEmpty
    · exact safe.notHidden rfl
    · exact safe.notHidden rfl
  rw [sanitizeFilename_eq, same, if_neg notReserved, if_neg safe.notHidden]

/-- A clean name that is left alone is in normal form. -/
theorem normal_of_unchanged
    (normalizes : NormalizesNfc normalizeNfc)
    (clean : Clean name)
    (unchanged : sanitizeFilename normalizeNfc name = some name) :
    normalizeNfc name = name := by
  have isNormal : normalizeNfc (keptName normalizeNfc name) = keptName normalizeNfc name := by
    rw [keptName, (normalizes.clean name clean).scrub]
    exact normalizes.truncated _ _ (normalizes.idempotent name)
  rw [sanitizeFilename_eq] at unchanged
  split at unchanged
  next => cases unchanged
  next =>
    split at unchanged
    next isHidden =>
      rw [← Option.some.inj unchanged]
      exact (normalizes.underscored _ isHidden).mpr isNormal
    next =>
      rw [← Option.some.inj unchanged]
      exact isNormal

/-- A name is rejected, or it becomes one that is safe to keep and that sanitising
leaves alone. -/
def SanitizesWell (normalizeNfc : Text → Text) (name : Text) : Prop :=
  ∀ result, sanitizeFilename normalizeNfc name = some result →
    SafeFilename result ∧ sanitizeFilename normalizeNfc result = some result

/-- What is kept of a name is no name at all, or it is in normal form and leaves room
for an underscore where it needs one. -/
def KeepsWell (normalizeNfc : Text → Text) (name : Text) : Prop :=
  isReservedName (keptName normalizeNfc name) = true ∨
    (normalizeNfc (keptName normalizeNfc name) = keptName normalizeNfc name ∧
      ((keptName normalizeNfc name).head? = some fullStop →
        utf8ByteLength (keptName normalizeNfc name) < filenameByteCap))

/-- Names sanitise well if and only if what is kept of them is in normal form, and is
shorter than the limit where it begins with a full stop. -/
theorem sanitizesWell_iff
    (normalizes : NormalizesNfc normalizeNfc)
    (name : Text) :
    SanitizesWell normalizeNfc name ↔ KeepsWell normalizeNfc name := by
  have isClean := clean_keptName normalizeNfc name
  rw [SanitizesWell, sanitizeFilename_eq, KeepsWell]
  by_cases isReserved : isReservedName (keptName normalizeNfc name) = true
  · rw [if_pos isReserved]
    simp [isReserved]
  · have notEmpty : keptName normalizeNfc name ≠ [] := by
      intro isEmpty
      exact isReserved ((isReservedName_iff _).mpr (.inl isEmpty))
    rw [if_neg isReserved]
    by_cases isHidden : (keptName normalizeNfc name).head? = some fullStop
    · have prefixed : Clean (underscore :: keptName normalizeNfc name) := by
        intro unit isUnit
        rcases List.mem_cons.mp isUnit with rfl | isUnit
        · exact isForbidden_underscore
        · exact isClean unit isUnit
      rw [if_pos isHidden]
      constructor
      · intro well
        obtain ⟨safe, unchanged⟩ := well _ rfl
        have isNormal := normal_of_unchanged normalizes prefixed unchanged
        have fits := safe.fits
        rw [utf8ByteLength_underscore] at fits
        exact .inr ⟨(normalizes.underscored _ isHidden).mp isNormal, fun _ => by omega⟩
      · rintro (reserved | ⟨isNormal, isShort⟩) result isResult
        · exact absurd reserved isReserved
        · cases isResult
          have safe : SafeFilename (underscore :: keptName normalizeNfc name) := by
            refine ⟨by simp, ?_, prefixed, by simp [underscore, fullStop]⟩
            rw [utf8ByteLength_underscore]
            have isShort := isShort isHidden
            omega
          exact ⟨safe, safe.sanitizeFilename ((normalizes.underscored _ isHidden).mpr isNormal)⟩
    · rw [if_neg isHidden]
      constructor
      · intro well
        obtain ⟨-, unchanged⟩ := well _ rfl
        exact .inr ⟨normal_of_unchanged normalizes isClean unchanged, fun hidden =>
          absurd hidden isHidden⟩
      · rintro (reserved | ⟨isNormal, -⟩) result isResult
        · exact absurd reserved isReserved
        · cases isResult
          have safe : SafeFilename (keptName normalizeNfc name) :=
            ⟨notEmpty, utf8ByteLength_truncateUtf8 _ _, isClean, isHidden⟩
          exact ⟨safe, safe.sanitizeFilename isNormal⟩

end Sanitising

/-- Normalisation of texts in normal form. -/
theorem normalizesNfc_id : NormalizesNfc id where
  idempotent _ := rfl
  clean _ := id
  truncated _ _ _ := rfl
  underscored _ _ := ⟨fun _ => rfl, fun _ => rfl⟩

theorem sanitizesWell_of_plain : SanitizesWell id [0x61, 0x2F, 0x62] :=
  (sanitizesWell_iff normalizesNfc_id [0x61, 0x2F, 0x62]).mpr (.inr (by decide))

/-- A full stop and 254 letters become a name of 256 bytes. -/
theorem hidden_name_too_long :
    ¬ ∀ (normalizeNfc : Text → Text) (name : Text),
      NormalizesNfc normalizeNfc → SanitizesWell normalizeNfc name := by
  intro well
  have safe := (well id (fullStop :: List.replicate 254 0x61) normalizesNfc_id
    (underscore :: fullStop :: List.replicate 254 0x61) (by decide +kernel)).1
  exact absurd safe.fits (by decide +kernel)

end Unseen
