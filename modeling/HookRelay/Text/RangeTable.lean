/-!
# Tables over ranges of code points

A property of characters is kept as ranges of code points, ascending and disjoint, each with a
value where the property has one. A table is written as a text of words: `A-B` or `A` for a
range, in hexadecimal, followed by `=v` where the range has the value `v`.

## Main definitions

* `RangeTable` : a set of code points
* `ValueTable` : values of code points
* `bisect` : the last of ascending positions that is not above a number
-/

namespace HookRelay.Text

/-- The number that hexadecimal digits denote; other characters count as zero. -/
def hexNumber (cs : List Char) : Nat :=
  cs.foldl (fun n c =>
    let d := c.toNat
    n * 16 + (if 48 ≤ d && d ≤ 57 then d - 48
      else if 65 ≤ d && d ≤ 70 then d - 55
      else if 97 ≤ d && d ≤ 102 then d - 87
      else 0)) 0

/-- Among the positions from `low` up to but not including `high`, the last one whose key is at
most `n`, provided the keys ascend; `low - 1` stands for none, so `low` is at least one more
than the answer sought. -/
def bisect (key : Nat → Nat) (n low high : Nat) : Nat :=
  if h : low < high then
    let mid := (low + high) / 2
    if key mid ≤ n then bisect key n (mid + 1) high else bisect key n low mid
  else low
termination_by high - low

/-- The words of a table's text: blanks and line ends stand between them. -/
def tableWords (text : String) : List (List Char) :=
  (text.splitOn "\n").flatMap fun line => (line.splitOn " ").map String.toList

/-- A set of code points, as ascending disjoint ranges. -/
structure RangeTable where
  ranges : Array (Nat × Nat)

/-- Reads `A-B` or `A`. -/
def readRange (word : List Char) : Nat × Nat :=
  let low := word.takeWhile (· != '-')
  match word.dropWhile (· != '-') with
  | [] => (hexNumber low, hexNumber low)
  | _ :: high => (hexNumber low, hexNumber high)

/-- Reads a table from its text. -/
def RangeTable.ofText (text : String) : RangeTable :=
  ⟨((tableWords text).map readRange).toArray⟩

/-- Whether a code point belongs to the set. -/
def RangeTable.mem (t : RangeTable) (n : Nat) : Bool :=
  let i := bisect (fun i => (t.ranges[i]?.map Prod.fst).getD 0) n 0 t.ranges.size
  match i with
  | 0 => false
  | i + 1 =>
    match t.ranges[i]? with
    | some (_, high) => n ≤ high
    | none => false

/-- Values of code points, as ascending disjoint ranges. -/
structure ValueTable where
  ranges : Array (Nat × Nat × String)

/-- Reads `A-B=v` or `A=v`. -/
def readValueRange (word : List Char) : Nat × Nat × String :=
  let (low, high) := readRange (word.takeWhile (· != '='))
  (low, high, String.ofList ((word.dropWhile (· != '=')).drop 1))

/-- Reads a table from its text. -/
def ValueTable.ofText (text : String) : ValueTable :=
  ⟨((tableWords text).map readValueRange).toArray⟩

/-- The value of a code point. -/
def ValueTable.find? (t : ValueTable) (n : Nat) : Option String :=
  let i := bisect (fun i => (t.ranges[i]?.map Prod.fst).getD 0) n 0 t.ranges.size
  match i with
  | 0 => none
  | i + 1 =>
    match t.ranges[i]? with
    | some (_, high, v) => if n ≤ high then some v else none
    | none => none

end HookRelay.Text
