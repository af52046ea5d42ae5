import HookRelay.Idna.MappingTable
import HookRelay.Text.Blank
import HookRelay.Text.RangeTable

/-!
# Mapping the characters of a domain name

Before a domain name is encoded, each of its characters is kept, replaced (by its lower case,
by its plain form, or by nothing), or makes the name invalid.

## Main definitions

* `Fate` : what becomes of a character
* `fate` : look-up in the table
* `mapChars` : the mapped text, `none` if a character is refused
-/

namespace HookRelay.Idna

/-- What becomes of a character of a domain name. -/
inductive Fate where
  | keep
  | refuse
  | replace (by_ : List Char)
  deriving DecidableEq, Repr, Inhabited

/-- Reads a word of the table. -/
def readFate (word : List Char) : Nat × Fate :=
  let start := Text.hexNumber (word.takeWhile Char.isAlphanum)
  match word.dropWhile Char.isAlphanum with
  | '=' :: [] => (start, .replace [])
  | '=' :: rest => (start, .replace ((rest.splitOn '.').map fun w => Char.ofNat (Text.hexNumber w)))
  | '!' :: _ => (start, .refuse)
  | _ => (start, .keep)

/-- The table: the first code point of each range, ascending, and the fate of the range. -/
def fates : Array (Nat × Fate) :=
  (mappingParts.flatMap fun part => (Text.tableWords part).map readFate).toArray

/-- The fate of a character. -/
def fate (c : Char) : Fate :=
  match Text.bisect (fun i => (fates[i]?.map Prod.fst).getD 0) c.toNat 0 fates.size with
  | 0 => .refuse
  | i + 1 => (fates[i]?.map Prod.snd).getD .refuse

/-- Maps the characters of a name; `none` if one of them is refused. Blanks are refused without
looking them up: what the table has for them is a plain blank, which may not stand in a name. -/
def mapChars : List Char → Option (List Char)
  | [] => some []
  | c :: cs =>
    if Text.isBlank c then none
    else
      match fate c with
      | .keep => (mapChars cs).map (c :: ·)
      | .refuse => none
      | .replace by_ => (mapChars cs).map (by_ ++ ·)

end HookRelay.Idna
