import HookRelay.Json.Printer

/-!
# Values as YAML

A value is written in block style: the fields of an object on lines of their own, the items of
an array behind dashes at the indentation of their key, a text of several lines as it stands. A
text that could be read as something else is put between quotes.

## Main definitions

* `isPlain` : whether a text can stand without quotes
* `entry` : the lines of a field
* `render` : the text of a document
-/

namespace HookRelay.Yaml

/-! ## Texts on one line -/

/-- Words that mean something else than themselves. -/
def wordsOfOwnMeaning : List String :=
  ["~", "null", "true", "false", "yes", "no", "on", "off", "y", "n", ".inf", "-.inf", "+.inf",
    ".nan"]

/-- Characters with which no text may begin that stands without quotes. -/
def indicators : List Char := "-?:,[]\x7b\x7d#&*!|>'\"%@`=<".toList

/-- Whether a text may be a number or a time: it begins like one, and has a digit. -/
def looksNumeric (cs : List Char) : Bool :=
  match cs with
  | [] => false
  | c :: _ => (c.isDigit || c = '+' || c = '.') && cs.any Char.isDigit

/-- Whether a colon or a number sign in a text would be read as a sign of its own. -/
def hasSign : List Char → Bool
  | [] => false
  | [c] => c = ':'
  | a :: b :: rest => (a = ':' && b = ' ') || (a = ' ' && b = '#') || hasSign (b :: rest)

/-- Whether a character stands for itself. -/
def isVisible (c : Char) : Bool := 32 ≤ c.toNat && c.toNat < 127

/-- Whether a text can stand without quotes. -/
def isPlain (s : String) : Bool :=
  let cs := s.toList
  match cs, cs.getLast? with
  | first :: _, some last =>
    !indicators.contains first && first != ' ' && last != ' ' && cs.all isVisible
      && !hasSign cs && !looksNumeric cs
      && !wordsOfOwnMeaning.contains (String.ofList (cs.map Char.toLower))
  | _, _ => false

/-- A text on one line. -/
def inline (s : String) : String := if isPlain s then s else Json.renderString s

/-! ## Texts of several lines -/

/-- The lines of a text. -/
def textLines : List Char → List (List Char)
  | [] => [[]]
  | c :: cs =>
    match textLines cs with
    | [] => [[c]]
    | l :: ls => if c = '\n' then [] :: l :: ls else (c :: l) :: ls

/-- Whether a text of several lines can be written as it stands. -/
def isBlock (s : String) : Bool :=
  let cs := s.toList
  match cs, cs.getLast? with
  | first :: _, some last =>
    cs.contains '\n' && first != ' ' && first != '\n' && last != '\n'
      && cs.all fun c => c = '\n' || isVisible c
  | _, _ => false

/-- A line further in; an empty line has no indentation. -/
def indent (line : String) : String := if line.isEmpty then line else "  " ++ line

/-- The lines of an item behind its dash. -/
def dashed : List String → List String
  | [] => []
  | first :: rest => ("- " ++ first) :: rest.map indent

/-- The lines of a field: what follows the key on its line, and the lines below. -/
def entry (key : String) : String × List String → List String
  | ("", below) => (key ++ ":") :: below
  | (head, below) => (key ++ ": " ++ head) :: below

/-- The lines of an item: what follows the dash on its line, and the lines below. -/
def item : String × List String → List String
  | ("", below) => dashed below
  | (head, below) => ("- " ++ head) :: below.map indent

/-! ## Values -/

mutual

/-- What follows the key or the dash of a value: a text on the same line, and the lines below
it. -/
def body : Json → String × List String
  | .null => ("null", [])
  | .bool b => (if b then "true" else "false", [])
  | .number n => (n.render, [])
  | .string s =>
    if isBlock s then ("|-", (textLines s.toList).map String.ofList) else (inline s, [])
  | .array [] => ("[]", [])
  | .array (x :: xs) => ("", items (x :: xs))
  | .object [] => ("\x7b\x7d", [])
  | .object (f :: fs) => ("", fields (f :: fs))

/-- The lines of items. -/
def items : List Json → List String
  | [] => []
  | x :: xs => item (body x) ++ items xs

/-- The lines of fields. -/
def fields : List (String × Json) → List String
  | [] => []
  | (key, .array xs) :: rest =>
    entry (inline key) (body (.array xs)) ++ fields rest
  | (key, value) :: rest =>
    entry (inline key) ((body value).1, (body value).2.map indent) ++ fields rest

end

/-- The text of a document. -/
def render (j : Json) : String :=
  match body j with
  | ("", lines) => String.join (lines.map fun l => l ++ "\n")
  | (head, lines) => String.join ((head :: lines.map indent).map fun l => l ++ "\n")

end HookRelay.Yaml
