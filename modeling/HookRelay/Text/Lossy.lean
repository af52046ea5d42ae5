/-!
# Bytes shown as text

Bytes that are no UTF-8 are shown all the same: what is readable is read, and each longest run
of bytes that begins a character without finishing it is replaced by one mark.
-/

namespace HookRelay.Text

/-- The mark in place of bytes that are no character. -/
def replacement : Char := '\ufffd'

/-- What has to follow the first byte of a character of several bytes: how many bytes, and the
bounds of the first of them. -/
def following? (b : UInt8) : Option (Nat × UInt8 × UInt8) :=
  if 0xC2 ≤ b && b ≤ 0xDF then some (1, 0x80, 0xBF)
  else if b = 0xE0 then some (2, 0xA0, 0xBF)
  else if b = 0xED then some (2, 0x80, 0x9F)
  else if 0xE1 ≤ b && b ≤ 0xEF then some (2, 0x80, 0xBF)
  else if b = 0xF0 then some (3, 0x90, 0xBF)
  else if 0xF1 ≤ b && b ≤ 0xF3 then some (3, 0x80, 0xBF)
  else if b = 0xF4 then some (3, 0x80, 0x8F)
  else none

/-- How many of the next bytes fit, up to a number of them. -/
def fitting : Nat → UInt8 → UInt8 → List UInt8 → Nat
  | n + 1, low, high, b :: rest =>
    if low ≤ b && b ≤ high then 1 + fitting n 0x80 0xBF rest else 0
  | _, _, _, _ => 0

/-- The character of a first byte, of which `n` bytes follow, and those bytes. -/
def assemble (n : Nat) (first : UInt8) (rest : List UInt8) : Char :=
  Char.ofNat (rest.foldl (fun acc b => acc * 64 + (b.toNat - 0x80)) (first.toNat % Nat.pow 2 (6 - n)))

/-- The characters that bytes show. -/
def shownChars : List UInt8 → List Char
  | [] => []
  | b :: rest =>
    if b < 0x80 then Char.ofNat b.toNat :: shownChars rest
    else
      match following? b with
      | none => replacement :: shownChars rest
      | some (n, low, high) =>
        let k := fitting n low high rest
        let c := if k = n then assemble n b (rest.take n) else replacement
        c :: shownChars (rest.drop k)
termination_by bytes => bytes.length
decreasing_by all_goals simp only [List.length_cons, List.length_drop]; omega

/-- The text that bytes show. -/
def shown (bytes : ByteArray) : String := String.ofList (shownChars bytes.toList)

end HookRelay.Text
