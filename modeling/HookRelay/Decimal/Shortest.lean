/-!
# Shortest decimal text of a double

A double stands for every real number that rounds to it. Among the decimals in that interval
the shortest is written, and of several equally short ones the nearest. The interval is taken
in exact arithmetic: with `v = m * 2 ^ e` it reaches half a unit up and half a unit down (a
quarter unit down from a power of two), and its ends belong to it exactly if `m` is even.

## Main definitions

* `Double.parts` : sign, significand and exponent of the bits of a double
* `Digits` : a decimal `0.d₁d₂… * 10 ^ point`
* `shortest` : the shortest digits of `m * 2 ^ e`
-/

namespace HookRelay.Decimal

/-- The decimal `n * 10 ^ exponent`, where `n` is written with `count` digits. -/
structure Digits where
  /-- The digits, as a number. -/
  value : Nat
  /-- How many digits `value` has. -/
  count : Nat
  /-- The power of ten of the last digit. -/
  exponent : Int
  deriving Repr, DecidableEq

/-- Sign, significand and binary exponent of a finite double. -/
structure Double.Parts where
  negative : Bool
  significand : Nat
  exponent : Int
  deriving Repr, DecidableEq

/-- Reads the fields of a double's bits; `none` for an infinity or a NaN. -/
def Double.parts (bits : UInt64) : Option Double.Parts :=
  let n := bits.toNat
  let negative := n / Nat.pow 2 63 == 1
  let field : Nat := n / Nat.pow 2 52 % Nat.pow 2 11
  let fraction : Nat := n % Nat.pow 2 52
  if field == 2047 then none
  else if field == 0 then some ⟨negative, fraction, -1074⟩
  else some ⟨negative, Nat.pow 2 52 + fraction, (field : Int) - 1075⟩

/-- The number of decimal digits of `n`; `0` has none. -/
def digitCount (n : Nat) : Nat := if n = 0 then 0 else (Nat.toDigits 10 n).length

/-- The `k` with `10 ^ (k - 1) ≤ num / den < 10 ^ k`, for a positive fraction. -/
def leadingPower (num den : Nat) : Int :=
  if den ≤ num then digitCount (num / den)
  else
    let t := digitCount (den / num)
    if num * Nat.pow 10 (t - 1) = den then 2 - t else 1 - t

/-- Drops the zeros at the end, at most `fuel` of them. -/
def Digits.stripZeros : Nat → Digits → Digits
  | 0, d => d
  | fuel + 1, d =>
    if d.count > 1 && d.value % 10 == 0 then
      stripZeros fuel ⟨d.value / 10, d.count - 1, d.exponent + 1⟩
    else d

/-- The point of the grid of `count` digits that lies in the interval `(low, high)` around
`num / den`, nearest to it, a tie going to the even digit. All three are numerators over the
denominator `den`; `closed` says that the ends belong to the interval. -/
def gridPoint (low num high den : Nat) (closed : Bool) (count : Nat) (exponent : Int) :
    Option Digits :=
  -- the grid's unit as a fraction
  let up := if 0 ≤ exponent then Nat.pow 10 exponent.toNat else 1
  let down := if 0 ≤ exponent then 1 else Nat.pow 10 (-exponent).toNat
  let unit := up * den
  let below := num * down / unit
  let inside (c : Nat) : Bool :=
    let x := c * unit
    if closed then low * down ≤ x && x ≤ high * down else low * down < x && x < high * down
  let distBelow := num * down - below * unit
  let distAbove := (below + 1) * unit - num * down
  let pick : Option Nat :=
    match inside below && below != 0, inside (below + 1) with
    | true, true =>
      if distBelow < distAbove then some below
      else if distAbove < distBelow then some (below + 1)
      else some (if below % 2 == 0 then below else below + 1)
    | true, false => some below
    | false, true => some (below + 1)
    | false, false => none
  pick.map fun c => ⟨c, count, exponent⟩

/-- The shortest digits that read back as `m * 2 ^ e`, for `m ≠ 0`. -/
def shortest (m : Nat) (e : Int) : Digits :=
  let scale := if 0 ≤ e then Nat.pow 2 e.toNat else 1
  let den := 4 * (if 0 ≤ e then 1 else Nat.pow 2 (-e).toNat)
  let num := 4 * m * scale
  let low := (4 * m - (if m == Nat.pow 2 52 && e > -1074 then 1 else 2)) * scale
  let high := (4 * m + 2) * scale
  let top := leadingPower num den
  let closed := m % 2 == 0
  let candidate := (List.range 17).findSome? fun i =>
    gridPoint low num high den closed (i + 1) (top - (i + 1))
  match candidate with
  | some d =>
    -- a candidate rounded up to the next power of ten has one digit more
    Digits.stripZeros 20 ⟨d.value, digitCount d.value, d.exponent⟩
  | none => ⟨num / den, digitCount (num / den), 0⟩

/-- The digits as characters. -/
def Digits.chars (d : Digits) : List Char := Nat.toDigits 10 d.value

end HookRelay.Decimal
