import HookRelay.Text.Printable

/-!
# Quoted text

Where a message shows a text that came from outside, it stands between quotes, and nothing in
it can be mistaken for the message: the quote and the backslash are escaped, the usual control
characters have their letters, and every other character that does not print by itself is
written by its number.

## Main definitions

* `quote` : a text between quotes
* `record`, `recordInPart` : a record on one line, with all of its fields or with some left out
-/

namespace HookRelay.Text

/-- A number in hexadecimal, in lower case. -/
def hexText (n : Nat) : List Char := Nat.toDigits 16 n

/-- The written form of one character. -/
def quoteChar (c : Char) : List Char :=
  if c = '"' then ['\\', '"']
  else if c = '\\' then ['\\', '\\']
  else if c = '\n' then ['\\', 'n']
  else if c = '\r' then ['\\', 'r']
  else if c = '\t' then ['\\', 't']
  else if c = '\x00' then ['\\', '0']
  else if isPrintable c then [c]
  else ['\\', 'u', '\x7b'] ++ hexText c.toNat ++ ['\x7d']

/-- A text between quotes. -/
def quote (s : String) : String :=
  String.ofList ('"' :: s.toList.flatMap quoteChar ++ ['"'])

/-- A record on one line, from its name and the written forms of its parts. -/
def recordLine (name : String) (parts : List String) : String :=
  if parts.isEmpty then name else name ++ " \x7b " ++ ", ".intercalate parts ++ " \x7d"

/-- The written form of a field. -/
def fieldText (f : String × String) : String := f.1 ++ ": " ++ f.2

/-- A record of which every field is shown. -/
def record (name : String) (fields : List (String × String)) : String :=
  recordLine name (fields.map fieldText)

/-- A record that keeps some of its fields to itself. -/
def recordInPart (name : String) (fields : List (String × String)) : String :=
  recordLine name (fields.map fieldText ++ [".."])

end HookRelay.Text
