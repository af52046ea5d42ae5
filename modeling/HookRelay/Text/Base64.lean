/-!
# Base64

Bytes written as text, three bytes in four characters. What is read has one written form only:
the padding is complete, the bits that carry nothing are zero, and nothing else stands in
between.
-/

namespace HookRelay.Text.Base64

/-- The value of a character. -/
def digit? (c : Char) : Option Nat :=
  let n := c.toNat
  if 'A' ≤ c && c ≤ 'Z' then some (n - 65)
  else if 'a' ≤ c && c ≤ 'z' then some (n - 97 + 26)
  else if '0' ≤ c && c ≤ '9' then some (n - 48 + 52)
  else if c = '+' then some 62
  else if c = '/' then some 63
  else none

/-- The bytes of a group of three or four values, of which `count` bytes carry something. -/
def groupBytes (n count : Nat) : List UInt8 :=
  [(n / 65536).toUInt8, (n / 256).toUInt8, n.toUInt8].take count

/-- The bytes of a group without padding. -/
def fullGroup (a b c d : Char) : Option (List UInt8) := do
  let n := (← digit? a) * 262144 + (← digit? b) * 4096 + (← digit? c) * 64 + (← digit? d)
  return groupBytes n 3

/-- The bytes of the last group, which may be padded. -/
def lastGroup : Char → Char → Char → Char → Option (List UInt8)
  | a, b, '=', '=' => do
    let n := (← digit? a) * 262144 + (← digit? b) * 4096
    if n % 65536 = 0 then some (groupBytes n 1) else none
  | a, b, c, '=' => do
    let n := (← digit? a) * 262144 + (← digit? b) * 4096 + (← digit? c) * 64
    if n % 256 = 0 then some (groupBytes n 2) else none
  | a, b, c, d => fullGroup a b c d

/-- Reads groups of four characters; `acc` holds the bytes of the groups before them. -/
def decodeChars (acc : Array UInt8) : List Char → Option (Array UInt8)
  | [] => some acc
  | [a, b, c, d] => (lastGroup a b c d).map acc.appendList
  | a :: b :: c :: d :: rest =>
    match fullGroup a b c d with
    | some bytes => decodeChars (acc.appendList bytes) rest
    | none => none
  | _ => none

/-- The bytes that a text stands for. -/
def decode (text : String) : Option ByteArray := (decodeChars #[] text.toList).map ByteArray.mk

end HookRelay.Text.Base64
