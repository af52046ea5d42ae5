import HookRelay.Idna.NormalTable
import HookRelay.Text.RangeTable

/-!
# The canonical composed form

Two texts that look alike may be written with different characters: an accented letter, or a
letter and an accent. The composed form is reached by taking all characters apart, ordering
the marks behind each base by their combining class, and putting together what can be put
together.

## Main definitions

* `decompose` : all characters taken apart, marks in order
* `compose` : what can be put together
* `normalForm` : the composed form
-/

namespace HookRelay.Idna

/-- A decomposition: the code point, its parts, and whether they are put together again. -/
structure Decomposition where
  char : Nat
  parts : List Nat
  composes : Bool
  deriving Repr, Inhabited

/-- Reads a word of the table of decompositions. -/
def readDecomposition (word : List Char) : Decomposition :=
  let start := word.takeWhile Char.isAlphanum
  let rest := word.dropWhile Char.isAlphanum
  ⟨Text.hexNumber start, ((rest.drop 1).splitOn '.').map Text.hexNumber, rest.head? == some '='⟩

/-- The decompositions, ascending by code point. -/
def decompositions : Array Decomposition :=
  ((Text.tableWords decompositionText).map readDecomposition).toArray

/-- The parts of a code point, if it has any. -/
def partsOf? (n : Nat) : Option (List Nat) :=
  match Text.bisect (fun i => (decompositions[i]?.map Decomposition.char).getD 0) n 0
      decompositions.size with
  | 0 => none
  | i + 1 =>
    match decompositions[i]? with
    | some d => if d.char = n then some d.parts else none
    | none => none

/-- The combining classes. -/
def combiningClasses : Text.ValueTable := .ofText combiningText

/-- The combining class of a code point. -/
def combiningClass (n : Nat) : Nat := ((combiningClasses.find? n).bind String.toNat?).getD 0

/-- The first Hangul syllable, and the number of syllables. -/
def hangulBase : Nat := 0xAC00

/-- Number of Hangul syllables. -/
def hangulCount : Nat := 11172

/-- Takes a code point apart, as far as `depth` levels. -/
def takeApart : (depth : Nat) → Nat → List Nat
  | 0, n => [n]
  | depth + 1, n =>
    if hangulBase ≤ n && n < hangulBase + hangulCount then
      let s := n - hangulBase
      let tail := s % 28
      [0x1100 + s / 588, 0x1161 + s % 588 / 28] ++ (if tail = 0 then [] else [0x11A7 + tail])
    else
      match partsOf? n with
      | some parts => parts.flatMap (takeApart depth)
      | none => [n]

/-- Moves a mark before the marks of a higher class that stand behind it in the reversed list. -/
def insertMark (m : Nat × Nat) : List (Nat × Nat) → List (Nat × Nat)
  | [] => [m]
  | x :: xs => if m.2 < x.2 then x :: insertMark m xs else m :: x :: xs

/-- Orders the marks behind each base; the list of what was read is in reverse. -/
def orderMarks : List (Nat × Nat) → List (Nat × Nat) → List (Nat × Nat)
  | [], acc => acc.reverse
  | x :: xs, acc =>
    if x.2 = 0 then orderMarks xs (x :: acc) else orderMarks xs (insertMark x acc)

/-- All characters taken apart, with their classes, marks in order. -/
def decompose (cs : List Char) : List (Nat × Nat) :=
  orderMarks ((cs.flatMap fun c => takeApart 8 c.toNat).map fun n => (n, combiningClass n)) []

/-- The code point two code points are put together to, if any. -/
def pair? (a b : Nat) : Option Nat :=
  if 0x1100 ≤ a && a < 0x1113 && 0x1161 ≤ b && b < 0x1176 then
    some (hangulBase + ((a - 0x1100) * 21 + (b - 0x1161)) * 28)
  else if hangulBase ≤ a && a < hangulBase + hangulCount && (a - hangulBase) % 28 = 0
      && 0x11A7 < b && b < 0x11C3 then
    some (a + (b - 0x11A7))
  else (decompositions.find? fun d => d.composes && d.parts == [a, b]).map Decomposition.char

/-- Puts together. `base` is the last base with the marks that stay behind it in reverse, and
`last` the class of the last of these. -/
def compose : (done : List Nat) → (base : Option (Nat × List Nat)) → (last : Nat) →
    List (Nat × Nat) → List Nat
  | done, none, _, [] => done.reverse
  | done, some (b, marks), _, [] => (marks ++ b :: done).reverse
  | done, none, last, (n, c) :: rest =>
    if c = 0 then compose done (some (n, [])) 0 rest else compose (n :: done) none last rest
  | done, some (b, marks), last, (n, c) :: rest =>
    let free := marks.isEmpty || (last < c && last ≠ 0)
    match if free then pair? b n else none with
    | some p => compose done (some (p, marks)) last rest
    | none =>
      if c = 0 then compose (marks ++ b :: done) (some (n, [])) 0 rest
      else compose done (some (b, n :: marks)) c rest

/-- The canonical composed form. -/
def normalForm (cs : List Char) : List Char :=
  if cs.all (fun c => c.toNat < 0x300) then cs
  else (compose [] none 0 (decompose cs)).map Char.ofNat

end HookRelay.Idna
