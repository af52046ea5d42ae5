import HookRelay.Idna.LabelTable
import HookRelay.Idna.Mapping
import HookRelay.Idna.NormalForm

/-!
# Well-formed labels

A label of a domain name may not begin with a combining mark. A joiner may stand only where it
changes how the characters around it are drawn. In a name with right-to-left characters every
label must have one direction.

## Main definitions

* `joinersOk`, `directionOk` : the two rules on contexts
* `isRightToLeft` : whether a label makes its name a right-to-left one
* `isStable` : whether mapping and composing leave a label as it is
-/

namespace HookRelay.Idna

/-- The joining types. -/
def joiningTypes : Text.ValueTable := .ofText joiningText

/-- The joining type of a character; `U` for those that do not join. -/
def joiningType (c : Char) : String := (joiningTypes.find? c.toNat).getD "U"

/-- The bidirectional classes. -/
def bidiClasses : Text.ValueTable := .ofText bidiText

/-- The bidirectional class of a character. -/
def bidiClass (c : Char) : String := (bidiClasses.find? c.toNat).getD "L"

/-- The combining class of the marks that suppress a vowel. -/
def virama : Nat := 9

/-- Whether a joiner that stops joining may stand between the characters before it, in reverse,
and those behind it. -/
def separatorOk (before after : List Char) : Bool :=
  match before.dropWhile (fun c => joiningType c == "T"),
    after.dropWhile (fun c => joiningType c == "T") with
  | b :: _, a :: _ =>
    (joiningType b == "L" || joiningType b == "D") && (joiningType a == "R" || joiningType a == "D")
  | _, _ => false

/-- Whether every joiner of a label may stand where it does; `before` is in reverse. -/
def joinersOk : (before : List Char) → List Char → Bool
  | _, [] => true
  | before, c :: cs =>
    let afterVirama := before.head?.any (fun b => combiningClass b.toNat = virama)
    let here :=
      if c.toNat = 0x200D then afterVirama
      else if c.toNat = 0x200C then afterVirama || separatorOk before cs
      else true
    here && joinersOk (c :: before) cs

/-- Whether a label makes its name a right-to-left one. -/
def isRightToLeft (label : List Char) : Bool :=
  label.any fun c => c.toNat ≥ 128 && ["R", "AL", "AN"].contains (bidiClass c)

/-- The classes of the characters that decide where a label ends. -/
def lastClass (label : List Char) : String :=
  match (label.reverse.map bidiClass).dropWhile (· == "NSM") with
  | k :: _ => k
  | [] => "NSM"

/-- Whether a label of a right-to-left name has one direction. -/
def directionOk (label : List Char) : Bool :=
  match label with
  | [] => true
  | c :: _ =>
    let classes := label.map bidiClass
    let first := bidiClass c
    if first == "R" || first == "AL" then
      classes.all (["R", "AL", "AN", "EN", "ES", "CS", "ET", "ON", "BN", "NSM"].contains ·)
        && ["R", "AL", "EN", "AN"].contains (lastClass label)
        && !(classes.contains "EN" && classes.contains "AN")
    else if first == "L" then
      classes.all (["L", "EN", "ES", "CS", "ET", "ON", "BN", "NSM"].contains ·)
        && ["L", "EN"].contains (lastClass label)
    else false

/-- Whether a label begins with a combining mark. -/
def beginsWithMark (label : List Char) : Bool := label.head?.any (fun c => marks.mem c.toNat)

/-- Whether mapping and composing leave a label as it is. -/
def isStable (label : List Char) : Bool :=
  label.all (fun c => fate c == .keep) && normalForm label == label

end HookRelay.Idna
