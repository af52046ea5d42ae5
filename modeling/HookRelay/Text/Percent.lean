/-!
# Percent encoding

A byte that may not stand in a part of an address is written as `%` and two hexadecimal digits
in upper case. Which characters may stand as they are depends on the part; characters beyond
ASCII never may.

## Main definitions

* `percentEncode` : a text in which the characters of a class are encoded
* `percentDecode` : the bytes of a text, with every complete triple decoded
-/

namespace HookRelay.Text

/-- A hexadecimal digit in upper case. -/
def upperHex (n : Nat) : Char :=
  if n < 10 then Char.ofNat (48 + n) else Char.ofNat (55 + n)

/-- A byte in encoded form. -/
def percentByte (b : UInt8) : List Char := ['%', upperHex (b.toNat / 16), upperHex (b.toNat % 16)]

/-- The bytes of a character. -/
def charBytes (c : Char) : List UInt8 := c.toString.toUTF8.toList

/-- A text in which characters of the class `unsafe_`, and all beyond ASCII, are encoded. -/
def percentEncode (isUnsafe : Char → Bool) (cs : List Char) : List Char :=
  cs.flatMap fun c =>
    if c.toNat ≥ 128 || isUnsafe c then (charBytes c).flatMap percentByte else [c]

/-- The value of a hexadecimal digit. -/
def hexDigit? (b : UInt8) : Option UInt8 :=
  if 48 ≤ b && b ≤ 57 then some (b - 48)
  else if 65 ≤ b && b ≤ 70 then some (b - 55)
  else if 97 ≤ b && b ≤ 102 then some (b - 87)
  else none

/-- Decodes every complete triple; all else stays. -/
def percentDecodeBytes : List UInt8 → List UInt8
  | 37 :: a :: b :: rest =>
    match hexDigit? a, hexDigit? b with
    | some x, some y => (x * 16 + y) :: percentDecodeBytes rest
    | _, _ => 37 :: percentDecodeBytes (a :: b :: rest)
  | b :: rest => b :: percentDecodeBytes rest
  | [] => []

/-- The bytes of a text, with every complete triple decoded. -/
def percentDecode (s : String) : ByteArray := ⟨(percentDecodeBytes s.toUTF8.toList).toArray⟩

end HookRelay.Text
