/-!
# Whole numbers in decimal

A whole number is a run of digits behind at most one sign. It is read from left to right, and the
first thing that does not fit is reported: a character that is no digit, or the digit with which
the number leaves its bounds.

## Main definitions

* `WholeFault` : why a text is no whole number
* `readNat`, `readInt` : reading within bounds
-/

namespace HookRelay.Decimal

/-- Why a text is no whole number within bounds. -/
inductive WholeFault where
  | empty
  | digit
  | tooLarge
  | tooSmall
  deriving DecidableEq, Repr

/-- The wording of a fault. -/
def WholeFault.message : WholeFault → String
  | .empty => "cannot parse integer from empty string"
  | .digit => "invalid digit found in string"
  | .tooLarge => "number too large to fit in target type"
  | .tooSmall => "number too small to fit in target type"

/-- Reads digits behind those that make up `n`; no number may be above `most`. -/
def readDigits (most : Nat) (above : WholeFault) : Nat → List Char → Except WholeFault Nat
  | n, [] => .ok n
  | n, c :: cs =>
    if c.isDigit then
      let m := n * 10 + (c.toNat - '0'.toNat)
      if m ≤ most then readDigits most above m cs else .error above
    else .error .digit

/-- Reads at least one digit. -/
def readMagnitude (most : Nat) (above : WholeFault) (cs : List Char) : Except WholeFault Nat :=
  if cs.isEmpty then .error .digit else readDigits most above 0 cs

/-- Reads a number up to `most` that may have a plus sign. -/
def readNat (most : Nat) (text : String) : Except WholeFault Nat :=
  match text.toList with
  | [] => .error .empty
  | '+' :: cs => readMagnitude most .tooLarge cs
  | cs => readMagnitude most .tooLarge cs

/-- Reads a number of 64 bits with a sign. -/
def readInt (text : String) : Except WholeFault Int :=
  match text.toList with
  | [] => .error .empty
  | '+' :: cs => (readMagnitude (Nat.pow 2 63 - 1) .tooLarge cs).map Int.ofNat
  | '-' :: cs => (readMagnitude (Nat.pow 2 63) .tooSmall cs).map fun n => -Int.ofNat n
  | cs => (readMagnitude (Nat.pow 2 63 - 1) .tooLarge cs).map Int.ofNat

end HookRelay.Decimal
