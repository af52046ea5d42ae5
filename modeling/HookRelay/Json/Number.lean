import HookRelay.Decimal.Shortest
import HookRelay.Json.Basic

/-!
# The text of JSON numbers

Whole numbers are written in decimal. Other numbers are written with their shortest digits:
positionally, always with a fraction, while the leading digit stands between `10 ^ -5` and
`10 ^ 15`; with an exponent of a sign and at least two digits beyond.

## Main definitions

* `Number.render` : the text of a number
* `Number.ofScaled` : the double of `n * 10 ^ k`, computed with powers of ten up to `10 ^ 308`
-/

namespace HookRelay.Json.Number

open HookRelay.Decimal

/-- The smallest and largest power of ten of the leading digit that are written positionally. -/
def positional (power : Int) : Bool := -5 ≤ power && power ≤ 15

/-- An exponent: its sign and at least two digits. -/
def exponentText (power : Int) : String :=
  let digits := toString power.natAbs
  (if power < 0 then "-" else "+") ++ (if digits.length < 2 then "0" ++ digits else digits)

/-- The text of a positive decimal. -/
def digitsText (d : Digits) : String :=
  let cs := d.chars
  let power : Int := d.exponent + d.count - 1
  if positional power then
    if 0 ≤ d.exponent then
      String.ofList (cs ++ List.replicate d.exponent.toNat '0') ++ ".0"
    else if 0 ≤ power then
      let n := (power + 1).toNat
      String.ofList (cs.take n) ++ "." ++ String.ofList (cs.drop n)
    else "0." ++ String.ofList (List.replicate (-power - 1).toNat '0' ++ cs)
  else
    let mantissa :=
      match cs with
      | [c] => String.ofList [c]
      | c :: rest => String.ofList (c :: '.' :: rest)
      | [] => "0"
    mantissa ++ "e" ++ exponentText power

/-- The text of a double. -/
def floatText (bits : UInt64) : String :=
  match Double.parts bits with
  | none => "null"
  | some p =>
    let sign := if p.negative then "-" else ""
    if p.significand = 0 then sign ++ "0.0"
    else sign ++ digitsText (shortest p.significand p.exponent)

/-- The text of a number. -/
def render : Number → String
  | .whole n => toString n
  | .float bits => floatText bits

/-- Scales `f` by `10 ^ exponent`, by steps of at most `10 ^ 308`; `none` if the result leaves
the range of doubles. -/
def scale (fuel : Nat) (f : Float) (exponent : Int) : Option Float :=
  if exponent.natAbs ≤ 308 then
    let power := Float.ofScientific 1 false exponent.natAbs
    if 0 ≤ exponent then
      let r := f * power
      if r.isInf then none else some r
    else some (f / power)
  else if f == 0.0 then some f
  else if 0 ≤ exponent then none
  else
    match fuel with
    | 0 => some 0.0
    | fuel + 1 => scale fuel (f / Float.ofScientific 1 false 308) (exponent + 308)

/-- The double of `± n * 10 ^ exponent`; `none` if it is out of range. -/
def ofScaled (negative : Bool) (n : UInt64) (exponent : Int) : Option Number :=
  (scale 4 n.toFloat exponent).map fun f => .float (if negative then -f else f).toBits

/-- A whole number if it fits into 64 bits. -/
def ofDigits (negative : Bool) (n : UInt64) : Number :=
  if negative then
    if n = 0 || n.toNat > Nat.pow 2 63 then .float (-n.toFloat).toBits else .whole (-(n.toNat : Int))
  else .whole n.toNat

end HookRelay.Json.Number
