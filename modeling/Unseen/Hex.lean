import Mathlib.Data.List.Basic

namespace Unseen

/-!
# Hexadecimal text

Digits and bytes as `hexEncode` and JSON escapes write them, in lower case.
-/

/-- The code unit of a hexadecimal digit, for a number below sixteen. -/
def hexDigit (value : Nat) : UInt16 :=
  UInt16.ofNat (if value < 10 then 0x30 + value else 0x57 + value)

/-- `hexEncode` -/
def hexEncode (bytes : List UInt8) : List UInt16 :=
  bytes.flatMap fun byte => [hexDigit (byte.toNat / 16), hexDigit (byte.toNat % 16)]

end Unseen
