import Unseen.Json
import Unseen.OpfsSweep

namespace Unseen

open Opfs

/-!
# Links to rooms

A link carries the secret of a room behind `#`, in base64url without padding.
Reading it back accepts what `fromBase64` of the runtime accepts: white space is
skipped, padding may stand at the end, and bits that fill no byte are dropped.
-/

/-! ## Reading base64url -/

/-- The value of a digit of the base64url alphabet. -/
def base64urlValue (unit : UInt16) : Option Nat :=
  if 0x41 ≤ unit ∧ unit ≤ 0x5A then some (unit.toNat - 0x41)
  else if 0x61 ≤ unit ∧ unit ≤ 0x7A then some (unit.toNat - 0x61 + 26)
  else if 0x30 ≤ unit ∧ unit ≤ 0x39 then some (unit.toNat - 0x30 + 52)
  else if unit = 0x2D then some 62
  else if unit = 0x5F then some 63
  else none

def isAsciiWhitespace (unit : UInt16) : Bool :=
  unit = 0x09 || unit = 0x0A || unit = 0x0C || unit = 0x0D || unit = 0x20

def paddingUnit : UInt16 := 0x3D

/-- The bytes that sextets fill; bits that are left are dropped. -/
def packBytes : List Nat → Bytes
  | first :: second :: third :: fourth :: rest =>
      UInt8.ofNat (first * 4 + second / 16) ::
        UInt8.ofNat (second % 16 * 16 + third / 4) ::
        UInt8.ofNat (third % 4 * 64 + fourth) ::
        packBytes rest
  | [first, second, third] =>
      [UInt8.ofNat (first * 4 + second / 16), UInt8.ofNat (second % 16 * 16 + third / 4)]
  | [first, second] => [UInt8.ofNat (first * 4 + second / 16)]
  | _ => []

/-- What may follow the first padding unit. -/
def closesChunk (chunk : List Nat) (rest : Text) : Bool :=
  match rest.dropWhile isAsciiWhitespace with
  | [] => chunk.length = 3
  | unit :: rest =>
      chunk.length = 2 && unit = paddingUnit && (rest.dropWhile isAsciiWhitespace) = []

/-- `Uint8Array.fromBase64`, after the digits of a chunk. -/
def decodeChunk : List Nat → Text → Option Bytes
  | chunk, [] => if chunk.length = 1 then none else some (packBytes chunk)
  | chunk, unit :: rest =>
      if isAsciiWhitespace unit then
        decodeChunk chunk rest
      else if unit = paddingUnit then
        if closesChunk chunk rest then some (packBytes chunk) else none
      else
        match base64urlValue unit with
        | none => none
        | some value =>
            if chunk.length = 3 then
              (decodeChunk [] rest).map (packBytes (chunk ++ [value]) ++ ·)
            else
              decodeChunk (chunk ++ [value]) rest

/-- `base64urlDecode` -/
def base64urlDecode (input : Text) : Option Bytes :=
  decodeChunk [] input

/-! ## Sextets -/

/-- The sextets of bytes, filled up with zeros. -/
def unpackBytes : Bytes → List Nat
  | [] => []
  | [first] => [first.toNat / 4, first.toNat % 4 * 16]
  | [first, second] =>
      [first.toNat / 4, first.toNat % 4 * 16 + second.toNat / 16, second.toNat % 16 * 4]
  | first :: second :: third :: rest =>
      first.toNat / 4 ::
        (first.toNat % 4 * 16 + second.toNat / 16) ::
        (second.toNat % 16 * 4 + third.toNat / 64) ::
        (third.toNat % 64) ::
        unpackBytes rest

/-- Sextets without the bits that fill no byte. -/
def dropSpare : List Nat → List Nat
  | first :: second :: third :: fourth :: rest =>
      first :: second :: third :: fourth :: dropSpare rest
  | [first, second, third] => [first, second, third / 4 * 4]
  | [first, second] => [first, second / 16 * 16]
  | _ => []

theorem base64urlValue_digit :
    ∀ value < 64, base64urlValue (base64urlDigit value) = some value := by
  decide

theorem base64urlDigit_not_mark :
    ∀ value < 64, isAsciiWhitespace (base64urlDigit value) = false ∧
      base64urlDigit value ≠ paddingUnit := by
  decide

theorem base64urlValue_eq_some
    {unit : UInt16}
    {value : Nat}
    (isValue : base64urlValue unit = some value) :
    value < 64 ∧ unit = base64urlDigit value := by
  unfold base64urlValue at isValue
  unfold base64urlDigit
  simp only [UInt16.le_iff_toNat_le, UInt16.reduceToNat] at isValue
  split_ifs at isValue with isUpper isLower isDigit isHyphen isUnderscore
  · cases isValue
    refine ⟨by omega, ?_⟩
    rw [if_pos (by omega)]
    exact UInt16.toNat_inj.mp (by rw [UInt16.toNat_ofNat']; omega)
  · cases isValue
    refine ⟨by omega, ?_⟩
    rw [if_neg (by omega), if_pos (by omega)]
    exact UInt16.toNat_inj.mp (by rw [UInt16.toNat_ofNat']; omega)
  · cases isValue
    refine ⟨by omega, ?_⟩
    rw [if_neg (by omega), if_neg (by omega), if_pos (by omega)]
    exact UInt16.toNat_inj.mp (by rw [UInt16.toNat_ofNat']; omega)
  · cases isValue
    exact ⟨by decide, isHyphen⟩
  · cases isValue
    exact ⟨by decide, isUnderscore⟩

theorem unpackBytes_lt (bytes : Bytes) : ∀ sextet ∈ unpackBytes bytes, sextet < 64 := by
  induction bytes using unpackBytes.induct with
  | case1 => simp [unpackBytes]
  | case2 first =>
      have := first.toNat_lt
      simp only [unpackBytes, List.mem_cons, List.not_mem_nil, or_false, forall_eq_or_imp, forall_eq]
      omega
  | case3 first second =>
      have := first.toNat_lt
      have := second.toNat_lt
      simp only [unpackBytes, List.mem_cons, List.not_mem_nil, or_false, forall_eq_or_imp, forall_eq]
      omega
  | case4 first second third rest ih =>
      have := first.toNat_lt
      have := second.toNat_lt
      have := third.toNat_lt
      simp only [unpackBytes, List.mem_cons, forall_eq_or_imp]
      exact ⟨by omega, by omega, by omega, by omega, ih⟩

theorem base64urlEncode_eq (bytes : Bytes) :
    base64urlEncode bytes = (unpackBytes bytes).map base64urlDigit := by
  induction bytes using unpackBytes.induct with
  | case1 => rfl
  | case2 first => rfl
  | case3 first second => rfl
  | case4 first second third rest ih =>
      rw [base64urlEncode, unpackBytes, ih]
      rfl

theorem packBytes_unpackBytes (bytes : Bytes) : packBytes (unpackBytes bytes) = bytes := by
  have byte_eq (byte : UInt8) (value : Nat) (same : value = byte.toNat) :
      UInt8.ofNat value = byte := by
    rw [same, UInt8.ofNat_toNat]
  induction bytes using unpackBytes.induct with
  | case1 => rfl
  | case2 first =>
      rw [unpackBytes, packBytes, byte_eq first _ (by omega)]
  | case3 first second =>
      have := second.toNat_lt
      rw [unpackBytes, packBytes, byte_eq first _ (by omega), byte_eq second _ (by omega)]
  | case4 first second third rest ih =>
      have := second.toNat_lt
      have := third.toNat_lt
      rw [unpackBytes, packBytes, byte_eq first _ (by omega), byte_eq second _ (by omega),
        byte_eq third _ (by omega), ih]

/-- Sextets that are packed and unpacked lose the bits that fill no byte. -/
theorem unpackBytes_packBytes
    {sextets : List Nat}
    (small : ∀ sextet ∈ sextets, sextet < 64) :
    unpackBytes (packBytes sextets) = dropSpare sextets := by
  induction sextets using packBytes.induct with
  | case1 first second third fourth rest ih =>
      simp only [List.mem_cons, forall_eq_or_imp] at small
      obtain ⟨isFirst, isSecond, isThird, isFourth, others⟩ := small
      rw [packBytes, unpackBytes, dropSpare, ih others]
      simp only [UInt8.toNat_ofNat', List.cons.injEq, and_true]
      omega
  | case2 first second third =>
      simp only [List.mem_cons, List.not_mem_nil, or_false, forall_eq_or_imp, forall_eq] at small
      simp only [packBytes, unpackBytes, dropSpare, UInt8.toNat_ofNat', List.cons.injEq, and_true]
      omega
  | case3 first second =>
      simp only [List.mem_cons, List.not_mem_nil, or_false, forall_eq_or_imp, forall_eq] at small
      simp only [packBytes, unpackBytes, dropSpare, UInt8.toNat_ofNat', List.cons.injEq, and_true]
      omega
  | case4 sextets notLong notThree notTwo =>
      rw [packBytes, dropSpare]
      · rfl
      all_goals assumption

theorem length_packBytes (sextets : List Nat) :
    (packBytes sextets).length = sextets.length * 3 / 4 := by
  induction sextets using packBytes.induct with
  | case1 first second third fourth rest ih =>
      rw [packBytes]
      simp only [List.length_cons, ih]
      omega
  | case2 first second third => simp [packBytes]
  | case3 first second => simp [packBytes]
  | case4 sextets notLong notThree notTwo =>
      rcases sextets with _ | ⟨first, _ | ⟨second, rest⟩⟩
      · simp [packBytes]
      · simp [packBytes]
      · rcases rest with _ | ⟨third, _ | ⟨fourth, rest⟩⟩
        · exact absurd rfl (notTwo first second)
        · exact absurd rfl (notThree first second third)
        · exact absurd rfl (notLong first second third fourth rest)

/-! ## What is read -/

/-- A whole chunk is packed by itself. -/
theorem packBytes_append
    {chunk : List Nat}
    (isWhole : chunk.length = 4)
    (rest : List Nat) :
    packBytes (chunk ++ rest) = packBytes chunk ++ packBytes rest := by
  obtain ⟨first, second, third, fourth, rfl⟩ := List.length_eq_four.mp isWhole
  rfl

/-- Digits are read as they were written. -/
theorem decodeChunk_digits
    {chunk sextets : List Nat}
    (isChunk : chunk.length < 4)
    (small : ∀ sextet ∈ sextets, sextet < 64)
    (fills : (chunk.length + sextets.length) % 4 ≠ 1) :
    decodeChunk chunk (sextets.map base64urlDigit) = some (packBytes (chunk ++ sextets)) := by
  induction sextets generalizing chunk with
  | nil =>
      have notOne : chunk.length ≠ 1 := by
        simp only [List.length_nil] at fills
        omega
      rw [List.map_nil, decodeChunk, if_neg notOne, List.append_nil]
  | cons sextet sextets ih =>
      have isSmall := small sextet List.mem_cons_self
      have others : ∀ other ∈ sextets, other < 64 := fun other isOther =>
        small other (List.mem_cons_of_mem _ isOther)
      obtain ⟨notBlank, notPadding⟩ := base64urlDigit_not_mark sextet isSmall
      simp only [List.map_cons, decodeChunk, notBlank, Bool.false_eq_true, if_false,
        if_neg notPadding, base64urlValue_digit sextet isSmall]
      rw [List.length_cons] at fills
      split
      · rename_i isLast
        rw [ih (by simp) others (by simp only [List.length_nil]; omega)]
        have isWhole : (chunk ++ [sextet]).length = 4 := by simp [isLast]
        rw [Option.map_some, List.nil_append, ← packBytes_append isWhole, List.append_assoc]
        rfl
      · rw [ih (by simp only [List.length_append, List.length_singleton]; omega) others
          (by simp only [List.length_append, List.length_singleton]; omega), List.append_assoc]
        rfl

theorem base64urlDecode_base64urlEncode (bytes : Bytes) :
    base64urlDecode (base64urlEncode bytes) = some bytes := by
  have isLength : (unpackBytes bytes).length = (4 * bytes.length + 2) / 3 := by
    rw [← length_base64urlEncode, base64urlEncode_eq, List.length_map]
  rw [base64urlDecode, base64urlEncode_eq, decodeChunk_digits (by simp) (unpackBytes_lt bytes),
    List.nil_append, packBytes_unpackBytes]
  rw [isLength, List.length_nil]
  omega

theorem base64urlValue_of_blank
    {unit : UInt16}
    (isBlank : isAsciiWhitespace unit = true) :
    base64urlValue unit = none := by
  simp only [isAsciiWhitespace, Bool.or_eq_true, decide_eq_true_eq] at isBlank
  rcases isBlank with (((rfl | rfl) | rfl) | rfl) | rfl <;> rfl

theorem filterMap_dropWhile_blank (text : Text) :
    (text.dropWhile isAsciiWhitespace).filterMap base64urlValue =
      text.filterMap base64urlValue := by
  induction text with
  | nil => rfl
  | cons unit rest ih =>
      cases isBlank : isAsciiWhitespace unit with
      | false => rw [List.dropWhile_cons_of_neg (Bool.eq_false_iff.mp isBlank)]
      | true =>
          rw [List.dropWhile_cons_of_pos isBlank, ih,
            List.filterMap_cons_none (base64urlValue_of_blank isBlank)]

/-- Behind the first padding unit there are no digits. -/
theorem filterMap_of_closesChunk
    {chunk : List Nat}
    {rest : Text}
    (closes : closesChunk chunk rest = true) :
    rest.filterMap base64urlValue = [] := by
  rw [← filterMap_dropWhile_blank]
  unfold closesChunk at closes
  split at closes
  · rename_i isBlank
    rw [isBlank]
    rfl
  · rename_i unit after isAfter
    simp only [Bool.and_eq_true, decide_eq_true_eq] at closes
    obtain ⟨⟨-, rfl⟩, noMore⟩ := closes
    rw [isAfter, List.filterMap_cons_none rfl, ← filterMap_dropWhile_blank, noMore]
    rfl

/-- Whatever is read was packed from the digits of the text. -/
theorem eq_packBytes_of_decodeChunk
    {chunk : List Nat}
    {text : Text}
    {bytes : Bytes}
    (isChunk : chunk.length < 4)
    (decodes : decodeChunk chunk text = some bytes) :
    bytes = packBytes (chunk ++ text.filterMap base64urlValue) := by
  induction text generalizing chunk bytes with
  | nil =>
      rw [decodeChunk] at decodes
      split at decodes
      · cases decodes
      · rw [List.filterMap_nil, List.append_nil]
        exact (Option.some.inj decodes).symm
  | cons unit rest ih =>
      rw [decodeChunk] at decodes
      split at decodes
      · rename_i isBlank
        rw [List.filterMap_cons_none (base64urlValue_of_blank isBlank)]
        exact ih isChunk decodes
      · split at decodes
        · rename_i isPadding
          split at decodes
          · rename_i closes
            subst isPadding
            rw [List.filterMap_cons_none rfl, filterMap_of_closesChunk closes, List.append_nil]
            exact (Option.some.inj decodes).symm
          · cases decodes
        · split at decodes
          · cases decodes
          · rename_i value isValue
            rw [List.filterMap_cons_some isValue]
            split at decodes
            · rename_i isLast
              obtain ⟨others, isRest, rfl⟩ := Option.map_eq_some_iff.mp decodes
              have isWhole : (chunk ++ [value]).length = 4 := by simp [isLast]
              rw [ih (by simp) isRest, List.nil_append, ← packBytes_append isWhole,
                List.append_assoc]
              rfl
            · rw [ih (by simp only [List.length_append, List.length_singleton]; omega) decodes,
                List.append_assoc]
              rfl

/-- A text of digits alone is read into what its digits fill. -/
theorem map_digit_filterMap
    {text : Text}
    (areDigits : (text.filterMap base64urlValue).length = text.length) :
    (text.filterMap base64urlValue).map base64urlDigit = text := by
  induction text with
  | nil => rfl
  | cons unit rest ih =>
      cases isValue : base64urlValue unit with
      | none =>
          rw [List.filterMap_cons_none isValue, List.length_cons] at areDigits
          have := List.length_filterMap_le base64urlValue rest
          omega
      | some value =>
          rw [List.filterMap_cons_some isValue] at areDigits ⊢
          rw [List.map_cons, ih (Nat.succ_inj.mp areDigits),
            ← (base64urlValue_eq_some isValue).2]

theorem filterMap_value_lt (text : Text) :
    ∀ sextet ∈ text.filterMap base64urlValue, sextet < 64 := by
  intro sextet isSextet
  obtain ⟨unit, -, isValue⟩ := List.mem_filterMap.mp isSextet
  exact (base64urlValue_eq_some isValue).1

/-! ## Links -/

/-- `SECRET_LENGTH` -/
def secretLength : Nat := 32

/-- `HASH_LENGTH` -/
def hashLength : Nat := 44

def numberSign : UInt16 := 0x23

/-- The pathname `/`. -/
def landingPath : Text := Json.ascii "/".toList

/-- The pathname `/r402`. -/
def roomPath : Text := Json.ascii "/r402".toList

inductive Route where
  | landing
  | chat (secret : Bytes)
  | invalid
deriving DecidableEq

/-- `parseLocation` -/
def parseLocation (pathname hash : Text) : Route :=
  if pathname = landingPath then .landing
  else if pathname ≠ roomPath then .invalid
  else if hash.length ≠ hashLength ∨ hash.head? ≠ some numberSign then .invalid
  else
    match base64urlDecode (hash.drop 1) with
    | none => .invalid
    | some bytes => if bytes.length ≠ secretLength then .invalid else .chat bytes

/-- The hash of the link that `#onCreate` makes. -/
def roomHash (secret : Bytes) : Text :=
  numberSign :: base64urlEncode secret

/-! ## The links of a secret -/

theorem dropSpare_concat
    {sextets : List Nat}
    (isThird : sextets.length % 4 = 2)
    (last : Nat) :
    dropSpare (sextets ++ [last]) = sextets ++ [last / 4 * 4] := by
  induction sextets using packBytes.induct with
  | case1 first second third fourth rest ih =>
      simp only [List.length_cons] at isThird
      simp only [List.cons_append, dropSpare, ih (by omega)]
  | case2 first second third => simp at isThird
  | case3 first second => rfl
  | case4 sextets notLong notThree notTwo =>
      rcases sextets with _ | ⟨first, _ | ⟨second, rest⟩⟩
      · simp at isThird
      · simp at isThird
      · rcases rest with _ | ⟨third, _ | ⟨fourth, rest⟩⟩
        · exact absurd rfl (notTwo first second)
        · exact absurd rfl (notThree first second third)
        · exact absurd rfl (notLong first second third fourth rest)

theorem unpackBytes_injective
    {first second : Bytes}
    (same : unpackBytes first = unpackBytes second) :
    first = second := by
  rw [← packBytes_unpackBytes first, same, packBytes_unpackBytes]

/-- Where two bytes are left over, the last sextet holds the lower half of the last
byte and two bits that stand for nothing. -/
theorem getLast?_unpackBytes
    {bytes : Bytes}
    (leaves : bytes.length % 3 = 2) :
    (unpackBytes bytes).getLast? = some (((bytes.getLast?.map UInt8.toNat).getD 0) % 16 * 4) := by
  induction bytes using unpackBytes.induct with
  | case1 => simp at leaves
  | case2 first => simp at leaves
  | case3 first second => rfl
  | case4 first second third rest ih =>
      simp only [List.length_cons] at leaves
      have isRest := ih (by omega)
      have notEmpty : rest ≠ [] := by
        rintro rfl
        simp at leaves
      have others : unpackBytes rest ≠ [] := by
        intro isEmpty
        rw [isEmpty] at isRest
        cases isRest
      rw [unpackBytes, List.getLast?_cons_of_ne_nil (by simp),
        List.getLast?_cons_of_ne_nil (by simp), List.getLast?_cons_of_ne_nil (by simp),
        List.getLast?_cons_of_ne_nil others, isRest, List.getLast?_cons_of_ne_nil (by simp),
        List.getLast?_cons_of_ne_nil (by simp), List.getLast?_cons_of_ne_nil notEmpty]

/-- The last digit of a secret, with two bits that stand for nothing. -/
def lastDigit (secret : Bytes) (spare : Nat) : UInt16 :=
  base64urlDigit ((secret.getLast?.map UInt8.toNat).getD 0 % 16 * 4 + spare)

/-- The sextets of a secret: forty-two that are read off it, and the last one. -/
theorem unpackBytes_secret
    {secret : Bytes}
    (isSecret : secret.length = secretLength) :
    ∃ sextets, sextets.length = 42 ∧ (∀ sextet ∈ sextets, sextet < 64) ∧
      unpackBytes secret = sextets ++ [(secret.getLast?.map UInt8.toNat).getD 0 % 16 * 4] := by
  have isLength : (unpackBytes secret).length = 43 := by
    rw [← List.length_map, ← base64urlEncode_eq, length_base64urlEncode, isSecret]
    rfl
  obtain ⟨sextets, last, isSplit⟩ :=
    (List.eq_nil_or_concat' (unpackBytes secret)).resolve_left (by
      intro isEmpty
      rw [isEmpty] at isLength
      cases isLength)
  have leaves : secret.length % 3 = 2 := by rw [isSecret]; rfl
  have isLast := getLast?_unpackBytes leaves
  rw [isSplit, List.getLast?_concat, Option.some.injEq] at isLast
  refine ⟨sextets, ?_, ?_, by rw [isSplit, isLast]⟩
  · rw [isSplit, List.length_append, List.length_singleton] at isLength
    omega
  · intro sextet isSextet
    exact unpackBytes_lt secret sextet (isSplit ▸ List.mem_append_left _ isSextet)

/-- Forty-three units are read as a secret exactly if they are its digits, up to the
spare bits. -/
theorem base64urlDecode_eq_some_iff
    {text : Text}
    {secret : Bytes}
    (isText : text.length = 43)
    (isSecret : secret.length = secretLength) :
    base64urlDecode text = some secret ↔
      ∃ spare < 4, text = (base64urlEncode secret).dropLast ++ [lastDigit secret spare] := by
  obtain ⟨sextets, isLength, areSmall, isUnpacked⟩ := unpackBytes_secret isSecret
  have isDigits : (base64urlEncode secret).dropLast = sextets.map base64urlDigit := by
    rw [base64urlEncode_eq, isUnpacked, List.map_append, List.map_singleton,
      List.dropLast_concat]
  rw [isDigits]
  constructor
  · intro decodes
    have isPacked := eq_packBytes_of_decodeChunk (by simp) decodes
    rw [List.nil_append] at isPacked
    have isFull : (text.filterMap base64urlValue).length = text.length := by
      have isBound := List.length_filterMap_le base64urlValue text
      have isCount := length_packBytes (text.filterMap base64urlValue)
      rw [← isPacked, isSecret, secretLength] at isCount
      omega
    obtain ⟨read, last, isRead⟩ :=
      (List.eq_nil_or_concat' (text.filterMap base64urlValue)).resolve_left (by
        intro isEmpty
        rw [isEmpty, isText] at isFull
        cases isFull)
    have isReadLength : read.length = 42 := by
      rw [isRead, isText, List.length_append, List.length_singleton] at isFull
      omega
    -- what was read and the sextets of the secret agree but for the spare bits
    have same := unpackBytes_packBytes (filterMap_value_lt text)
    rw [← isPacked, isUnpacked, isRead, dropSpare_concat (by rw [isReadLength])] at same
    obtain ⟨rfl, isLast⟩ := List.append_inj same (by rw [isLength, isReadLength])
    refine ⟨last % 4, Nat.mod_lt _ (by decide), ?_⟩
    rw [← map_digit_filterMap isFull, isRead, List.map_append, List.map_singleton, lastDigit]
    simp only [List.cons.injEq, and_true] at isLast
    congr 2
    rw [isLast]
    congr 1
    omega
  · rintro ⟨spare, isSpare, rfl⟩
    have isLow : (secret.getLast?.map UInt8.toNat).getD 0 % 16 < 16 := Nat.mod_lt _ (by decide)
    have areRead : ∀ sextet ∈
        sextets ++ [(secret.getLast?.map UInt8.toNat).getD 0 % 16 * 4 + spare], sextet < 64 := by
      intro sextet isSextet
      rcases List.mem_append.mp isSextet with isEarlier | isLast
      · exact areSmall sextet isEarlier
      · rw [List.mem_singleton.mp isLast]
        omega
    have isJoined : sextets.map base64urlDigit ++ [lastDigit secret spare] =
        (sextets ++ [(secret.getLast?.map UInt8.toNat).getD 0 % 16 * 4 + spare]).map
          base64urlDigit := by
      rw [List.map_append]
      rfl
    rw [isJoined, base64urlDecode, decodeChunk_digits (by simp) areRead
      (by simp [isLength]), List.nil_append, Option.some.injEq]
    apply unpackBytes_injective
    rw [unpackBytes_packBytes areRead, dropSpare_concat (by rw [isLength]), isUnpacked]
    congr 2
    omega

/-- A location is read as a room exactly where its hash is the link of the secret,
or differs from it in the two spare bits of the last digit. -/
theorem parseLocation_chat
    (pathname hash : Text)
    (secret : Bytes) :
    parseLocation pathname hash = .chat secret ↔
      pathname = roomPath ∧ secret.length = secretLength ∧
        ∃ spare < 4, hash = (roomHash secret).dropLast ++ [lastDigit secret spare] := by
  have isHash : ∀ spare, secret.length = secretLength →
      (roomHash secret).dropLast ++ [lastDigit secret spare] =
        numberSign :: ((base64urlEncode secret).dropLast ++ [lastDigit secret spare]) := by
    intro spare isSecret
    have notEmpty : base64urlEncode secret ≠ [] := by
      intro isEmpty
      have isLength := length_base64urlEncode secret
      rw [isEmpty, isSecret] at isLength
      cases isLength
    rw [roomHash, List.dropLast_cons_of_ne_nil notEmpty, List.cons_append]
  unfold parseLocation
  constructor
  · intro isChat
    split at isChat
    · cases isChat
    · split at isChat
      · cases isChat
      · rename_i isRoom
        split at isChat
        · cases isChat
        · rename_i isForm
          rw [not_not] at isRoom
          rw [not_or, not_not, not_not] at isForm
          split at isChat
          · cases isChat
          · rename_i bytes decodes
            split at isChat
            · cases isChat
            · rename_i isSecret
              rw [not_not] at isSecret
              cases isChat
              obtain ⟨rest, rfl⟩ : ∃ rest, hash = numberSign :: rest :=
                List.head?_eq_some_iff.mp isForm.2
              have isText : rest.length = 43 := Nat.succ_inj.mp isForm.1
              obtain ⟨spare, isSpare, rfl⟩ :=
                (base64urlDecode_eq_some_iff isText isSecret).mp decodes
              exact ⟨isRoom, isSecret, spare, isSpare, (isHash spare isSecret).symm⟩
  · rintro ⟨rfl, isSecret, spare, isSpare, rfl⟩
    have isText : ((base64urlEncode secret).dropLast ++ [lastDigit secret spare]).length = 43 := by
      rw [List.length_append, List.length_dropLast, length_base64urlEncode, isSecret]
      rfl
    have decodes := (base64urlDecode_eq_some_iff isText isSecret).mpr ⟨spare, isSpare, rfl⟩
    have isRoom : roomPath ≠ landingPath := by decide
    rw [isHash spare isSecret, if_neg isRoom, if_neg (not_not.mpr rfl), if_neg]
    · simp only [List.drop_one, List.tail_cons, decodes, isSecret, ne_eq, not_true_eq_false,
        if_false]
    · rw [List.length_cons, isText]
      simp [hashLength]

/-- The link of a secret is read as the room of the secret. -/
theorem parseLocation_roomHash
    {secret : Bytes}
    (isSecret : secret.length = secretLength) :
    parseLocation roomPath (roomHash secret) = .chat secret := by
  rw [parseLocation_chat]
  obtain ⟨sextets, -, -, isUnpacked⟩ := unpackBytes_secret isSecret
  refine ⟨rfl, isSecret, 0, by decide, ?_⟩
  have isEncoded := base64urlEncode_eq secret
  rw [isUnpacked, List.map_append, List.map_singleton] at isEncoded
  rw [roomHash, isEncoded, ← List.cons_append, List.dropLast_concat]
  rfl

/-- Which locations are read as rooms; the link that a room is created with is one of them. -/
theorem parseLocation_eq_chat_iff
    (pathname hash : Text)
    (secret : Bytes) :
    (parseLocation pathname hash = .chat secret ↔
      pathname = roomPath ∧ secret.length = secretLength ∧
        ∃ spare < 4, hash = (roomHash secret).dropLast ++ [lastDigit secret spare]) ∧
      (secret.length = secretLength →
        parseLocation roomPath (roomHash secret) = .chat secret) :=
  ⟨parseLocation_chat pathname hash secret, parseLocation_roomHash⟩

/-! ## Names of locks -/

/-- `lockKey` of `deriveRoomKeys`, for the bytes derived for it. -/
def lockKey (lockBytes : Bytes) : Text :=
  let lockKeyEncoded := base64urlEncode lockBytes
  if lockKeyEncoded.head? = some 0x2D then 0x5F :: lockKeyEncoded.drop 1 else lockKeyEncoded

/-- Bytes whose name would begin with `-`, changed to those that begin with `_`. -/
def withoutHyphen : Bytes → Bytes
  | [] => []
  | first :: rest => (if 0xF8 ≤ first ∧ first ≤ 0xFB then first + 4 else first) :: rest

theorem base64urlEncode_injective
    {first second : Bytes}
    (same : base64urlEncode first = base64urlEncode second) :
    first = second := by
  have decoded := base64urlDecode_base64urlEncode first
  rw [same, base64urlDecode_base64urlEncode] at decoded
  exact (Option.some.inj decoded).symm

/-- The name of a lock is the name of the changed bytes. -/
theorem lockKey_eq (lockBytes : Bytes) :
    lockKey lockBytes = base64urlEncode (withoutHyphen lockBytes) := by
  cases lockBytes with
  | nil => rfl
  | cons first rest =>
      have bound := first.toNat_lt
      have isHyphen := base64urlDigit_eq_hyphen (first.toNat / 4) (by omega)
      simp only [lockKey, head_base64urlEncode, Option.some.injEq, isHyphen, withoutHyphen,
        UInt8.le_iff_toNat_le, UInt8.reduceToNat]
      by_cases changes : first.toNat / 4 = 62
      · have isRange : 0xF8 ≤ first.toNat ∧ first.toNat ≤ 0xFB := by omega
        have isNext : (first + 4).toNat = first.toNat + 4 := by
          simp only [UInt8.toNat_add, UInt8.reduceToNat]
          omega
        rw [if_pos changes, if_pos isRange, base64urlEncode_eq, base64urlEncode_eq]
        have isDigit : base64urlDigit ((first + 4).toNat / 4) = 0x5F := by
          rw [isNext, show (first.toNat + 4) / 4 = 63 by omega]
          rfl
        have isLow : (first + 4).toNat % 4 = first.toNat % 4 := by omega
        rcases rest with _ | ⟨second, _ | ⟨third, rest⟩⟩
        all_goals
          simp only [unpackBytes, List.map_cons, List.drop_one, List.tail_cons, isDigit, isLow]
      · have notRange : ¬ (0xF8 ≤ first.toNat ∧ first.toNat ≤ 0xFB) := by omega
        rw [if_neg changes, if_neg notRange]

/-- Every room has a lock: its name is accepted, and two rooms share it exactly if
their bytes agree once a leading `-` has been replaced. -/
theorem lockKey_spec :
    (∀ lockBytes, isRejectedLockName (lockKey lockBytes) = false) ∧
      ∀ first second,
        lockKey first = lockKey second ↔ withoutHyphen first = withoutHyphen second := by
  constructor
  · intro lockBytes
    rw [lockKey_eq]
    cases lockBytes with
    | nil => rfl
    | cons first rest =>
        have bound := (if 0xF8 ≤ first ∧ first ≤ 0xFB then first + 4 else first).toNat_lt
        rw [withoutHyphen, isRejectedLockName, head_base64urlEncode, beq_eq_false_iff_ne,
          ne_eq, Option.some.injEq, base64urlDigit_eq_hyphen _ (by omega)]
        split
        · rename_i isRange
          simp only [UInt8.le_iff_toNat_le, UInt8.reduceToNat] at isRange
          simp only [UInt8.toNat_add, UInt8.reduceToNat]
          omega
        · rename_i notRange
          simp only [UInt8.le_iff_toNat_le, UInt8.reduceToNat] at notRange
          omega
  · intro first second
    rw [lockKey_eq, lockKey_eq]
    exact ⟨base64urlEncode_injective, congrArg base64urlEncode⟩

end Unseen
