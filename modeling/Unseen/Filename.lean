import Unseen.Wire

namespace Unseen

/-!
# Filename sanitisation

The name of an offered file is normalised, stripped of bidirectional controls
and byte-order marks, freed of control characters and path separators, and cut
to the file system's byte limit.  All characters the expressions name are in
the basic plane, so they are matched on UTF-16 code units.
-/

/-- `FILENAME_BYTE_CAP` -/
def filenameByteCap : Nat := 255

/-- `BIDI_CONTROL_RE` -/
def isBidiControl (unit : UInt16) : Bool :=
  (0x202A ≤ unit && unit ≤ 0x202E) || (0x2066 ≤ unit && unit ≤ 0x2069) ||
    unit == 0x200E || unit == 0x200F || unit == 0x061C

/-- `INVISIBLE_FILENAME_RE` -/
def isInvisibleInFilename (unit : UInt16) : Bool :=
  unit == 0xFEFF || unit == 0x200E || unit == 0x200F

/-- `CONTROL_RE`: the general category Cc. -/
def isControl (unit : UInt16) : Bool :=
  unit ≤ 0x1F || (0x7F ≤ unit && unit ≤ 0x9F)

/-- `PATH_SEPARATOR_RE` -/
def isPathSeparator (unit : UInt16) : Bool :=
  unit == 0x2F || unit == 0x5C || unit == 0x3A || unit == 0x7C

/-- The underscore that replaces a forbidden character. -/
def underscore : UInt16 := 0x5F

/-- The full stop. -/
def fullStop : UInt16 := 0x2E

/-- Replace every code unit that satisfies the test by an underscore. -/
def replaceByUnderscore (test : UInt16 → Bool) (input : Text) : Text :=
  input.map fun unit => if test unit then underscore else unit

/--
The text that decodes from the longest whole-character prefix of the UTF-8
encoding that fits the budget; a lone surrogate was encoded as U+FFFD.
-/
def decodePrefix : Nat → Text → Text
  | _, [] => []
  | budget, [unit] =>
      if utf8UnitLength unit ≤ budget then
        if isHighSurrogate unit || isLowSurrogate unit then [0xFFFD] else [unit]
      else
        []
  | budget, first :: second :: rest =>
      if isHighSurrogate first && isLowSurrogate second then
        if 4 ≤ budget then
          first :: second :: decodePrefix (budget - 4) rest
        else
          []
      else if utf8UnitLength first ≤ budget then
        (if isHighSurrogate first || isLowSurrogate first then 0xFFFD else first) ::
          decodePrefix (budget - utf8UnitLength first) (second :: rest)
      else
        []

/-- `truncateUtf8` -/
def truncateUtf8 (input : Text) (maxBytes : Nat) : Text :=
  if utf8ByteLength input ≤ maxBytes then
    input
  else
    decodePrefix maxBytes input

/-- The names `''`, `'.'` and `'..'`. -/
def isReservedName (name : Text) : Bool :=
  name == [] || name == [fullStop] || name == [fullStop, fullStop]

/-- `sanitizeFilename`; `none` is `null`. -/
def sanitizeFilename (normalizeNfc : Text → Text) (name : Text) : Option Text :=
  let nfc := normalizeNfc name
  let noBidi := nfc.filter (fun unit => !isBidiControl unit)
  let noInvisible := noBidi.filter (fun unit => !isInvisibleInFilename unit)
  let noControl := replaceByUnderscore isControl noInvisible
  let noPath := replaceByUnderscore isPathSeparator noControl
  if isReservedName noPath then
    none
  else
    let truncated := truncateUtf8 noPath filenameByteCap
    if isReservedName truncated then
      none
    else if truncated.head? = some fullStop then
      some (underscore :: truncated)
    else
      some truncated

end Unseen
