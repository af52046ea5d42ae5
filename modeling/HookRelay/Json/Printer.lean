import HookRelay.Json.Number

/-!
# Compact JSON text

A value is written without blanks, fields in the order in which they are listed. In a string
the quote and the backslash are escaped by a backslash, five control characters by a letter,
and every other control character by four hexadecimal digits; all else is written as it is.
-/

namespace HookRelay.Json

/-- A hexadecimal digit in lower case. -/
def hexDigit (n : Nat) : Char := (Nat.digitChar (n % 16))

/-- The written form of one character of a string. -/
def escapeChar (c : Char) : List Char :=
  if c = '"' then ['\\', '"']
  else if c = '\\' then ['\\', '\\']
  else if c = '\n' then ['\\', 'n']
  else if c = '\r' then ['\\', 'r']
  else if c = '\t' then ['\\', 't']
  else if c = '\x08' then ['\\', 'b']
  else if c = '\x0c' then ['\\', 'f']
  else if c.toNat < 0x20 then ['\\', 'u', '0', '0', hexDigit (c.toNat / 16), hexDigit c.toNat]
  else [c]

/-- A string with its quotes. -/
def renderString (s : String) : String :=
  (s.foldl (fun acc c => (escapeChar c).foldl String.push acc) "\"").push '"'

mutual

/-- Appends the text of a value. -/
def renderTo (acc : String) : Json → String
  | .null => acc ++ "null"
  | .bool b => acc ++ (if b then "true" else "false")
  | .number n => acc ++ n.render
  | .string s => acc ++ renderString s
  | .array xs => (renderItems (acc.push '[') true xs).push ']'
  | .object fs => (renderFields (acc.push '\x7b') true fs).push '\x7d'

/-- Appends the items of an array, separated by commas. -/
def renderItems (acc : String) (first : Bool) : List Json → String
  | [] => acc
  | x :: xs => renderItems (renderTo (if first then acc else acc.push ',') x) false xs

/-- Appends the fields of an object, separated by commas. -/
def renderFields (acc : String) (first : Bool) : List (String × Json) → String
  | [] => acc
  | (k, v) :: rest =>
    let acc := if first then acc else acc.push ','
    renderFields (renderTo ((acc ++ renderString k).push ':') v) false rest

end

/-- The compact text of a value. -/
def render (j : Json) : String := renderTo "" j

end HookRelay.Json
