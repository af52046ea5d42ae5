/-!
# Punycode

A label with characters beyond ASCII is written in ASCII: first its ASCII characters, then a
hyphen if there are any, then a list of numbers that say where the other characters are
inserted. The numbers have digits `a` to `z` and `0` to `9` and a variable base that adapts to
the numbers already written.

## Main definitions

* `encode` : the written form of a label
* `decode` : the label of a written form
-/

namespace HookRelay.Idna.Punycode

/-- Divides a distance until it is small, and gives the bias that is due then; `k` is what the
divisions so far add to it. -/
def settle (delta k : Nat) : Nat :=
  if delta > 455 then settle (delta / 35) (k + 36) else k + 36 * delta / (delta + 38)
termination_by delta
decreasing_by exact Nat.div_lt_self (by omega) (by omega)

/-- Adapts the bias after a number was written. -/
def adapt (delta count : Nat) (first : Bool) : Nat :=
  let delta := if first then delta / 700 else delta / 2
  settle (delta + delta / count) 0

/-- The threshold of the digit of weight number `k`. -/
def threshold (k bias : Nat) : Nat :=
  if k ≤ bias then 1 else if k ≥ bias + 26 then 26 else k - bias

theorem threshold_pos (k bias : Nat) : 0 < threshold k bias := by
  unfold threshold
  split
  · omega
  · split <;> omega

/-- A digit. -/
def digitChar (d : Nat) : Char := Char.ofNat (if d < 26 then 97 + d else 22 + d)

/-- The value of a digit. -/
def digitValue? (c : Char) : Option Nat :=
  let n := c.toNat
  if 97 ≤ n && n ≤ 122 then some (n - 97)
  else if 65 ≤ n && n ≤ 90 then some (n - 65)
  else if 48 ≤ n && n ≤ 57 then some (n - 22)
  else none

/-- The digits of a number. -/
def numberDigits (q k bias : Nat) : List Char :=
  let t := threshold k bias
  if q < t then [digitChar q]
  else digitChar (t + (q - t) % (36 - t)) :: numberDigits ((q - t) / (36 - t)) (k + 36) bias
termination_by q
decreasing_by
  have := threshold_pos k bias
  have := Nat.div_le_self (q - threshold k bias) (36 - threshold k bias)
  omega

/-- The state of encoding: the distance since the last number, the bias, how many characters
are written, and the text in reverse. -/
structure Encoding where
  delta : Nat
  bias : Nat
  handled : Nat
  written : List Char

/-- Passes over one character of the label while characters with number `n` are inserted. -/
def encodeStep (n basic : Nat) (s : Encoding) (c : Char) : Encoding :=
  if c.toNat < n then { s with delta := s.delta + 1 }
  else if c.toNat = n then
    { delta := 0
      bias := adapt s.delta (s.handled + 1) (s.handled = basic)
      handled := s.handled + 1
      written := (numberDigits s.delta 36 s.bias).reverse ++ s.written }
  else s

/-- Inserts the characters with numbers in `ns`, ascending; `previous` is where counting of
numbers stands. -/
def encodeFrom (label : List Char) (basic : Nat) : List Nat → Nat → Encoding → Encoding
  | [], _, s => s
  | n :: ns, previous, s =>
    let s := { s with delta := s.delta + (n - previous) * (s.handled + 1) }
    let s := label.foldl (encodeStep n basic) s
    encodeFrom label basic ns (n + 1) { s with delta := s.delta + 1 }

/-- Adds a number to an ascending list, unless it is in it. -/
def insertNumber (n : Nat) : List Nat → List Nat
  | [] => [n]
  | m :: ms => if n < m then n :: m :: ms else if n = m then m :: ms else m :: insertNumber n ms

/-- The written form of a label. -/
def encode (label : List Char) : List Char :=
  let basic := label.filter (fun c => c.toNat < 128)
  let others := (label.filter (fun c => c.toNat ≥ 128)).foldl
    (fun acc c => insertNumber c.toNat acc) []
  let start := if basic.isEmpty then [] else '-' :: basic.reverse
  (encodeFrom label basic.length others 128 ⟨0, 72, basic.length, start⟩).written.reverse

/-- Reads a number: its value and the rest. -/
def readNumber : (i weight k bias : Nat) → List Char → Option (Nat × List Char)
  | _, _, _, _, [] => none
  | i, weight, k, bias, c :: cs => do
    let d ← digitValue? c
    let t := threshold k bias
    let i := i + d * weight
    if i ≥ Nat.pow 2 32 then none
    else if d < t then some (i, cs)
    else readNumber i (weight * (36 - t)) (k + 36) bias cs

/-- A number takes up a part of the text that is not empty. -/
theorem length_lt_of_readNumber {bias : Nat} {cs : List Char} {i weight k : Nat}
    {r : Nat × List Char} (h : readNumber i weight k bias cs = some r) :
    r.2.length < cs.length := by
  induction cs generalizing i weight k with
  | nil => simp [readNumber] at h
  | cons c cs ih =>
    rw [readNumber] at h
    obtain ⟨d, -, h⟩ := Option.bind_eq_some_iff.1 h
    dsimp only at h
    split at h
    · cases h
    · split at h
      · cases h; simp
      · have := ih h; simp only [List.length_cons]; omega

/-- Inserts the characters that the numbers in a text name into a label. -/
def decodeFrom (cs : List Char) (n i bias : Nat) (first : Bool) (label : List Char) :
    Option (List Char) :=
  if cs.isEmpty then some label
  else
    match _h : readNumber i 1 36 bias cs with
    | none => none
    | some (next, rest) =>
      let count := label.length + 1
      let n := n + next / count
      let place := next % count
      if n > 0x10FFFF || (0xD800 ≤ n && n ≤ 0xDFFF) then none
      else
        decodeFrom rest n (place + 1) (adapt (next - i) count first) false
          (label.take place ++ Char.ofNat n :: label.drop place)
termination_by cs.length
decreasing_by exact length_lt_of_readNumber _h

/-- The label of a written form. -/
def decode (text : List Char) : Option (List Char) :=
  let tail := (text.reverse.takeWhile (· != '-')).reverse
  let basic := text.take (text.length - tail.length - 1)
  if basic.any (fun c => c.toNat ≥ 128) then none
  else decodeFrom tail 128 0 72 true basic

end HookRelay.Idna.Punycode
