/-!
# Blank characters

Names, references and URLs are read with the blanks around them removed. A blank is a
character with the Unicode property White_Space: the ASCII blanks, the next-line character,
the no-break spaces and the typographic spaces, but not the zero-width ones.

## Main definitions

* `isBlank` : the property, one range per line
* `trim` : a text without the blanks at its two ends
* `isAllBlank` : nothing is left after trimming
-/

namespace HookRelay.Text

/-- A character with the property White_Space. -/
def isBlank (c : Char) : Bool :=
  let n := c.toNat
  (9 ≤ n && n ≤ 13) || n == 0x20 || n == 0x85 || n == 0xA0 || n == 0x1680
    || (0x2000 ≤ n && n ≤ 0x200A)
    || n == 0x2028 || n == 0x2029 || n == 0x202F || n == 0x205F || n == 0x3000

/-- Removes the blanks at both ends of a list of characters. -/
def trimChars (cs : List Char) : List Char :=
  ((cs.dropWhile isBlank).reverse.dropWhile isBlank).reverse

/-- Removes the blanks at both ends of a text. -/
def trim (s : String) : String := String.ofList (trimChars s.toList)

/-- Whether a text holds blanks only, the empty text included. -/
def isAllBlank (s : String) : Bool := s.toList.all isBlank

/-- The ASCII letters moved to lower case; every other character stays. -/
def asciiLower (s : String) : String := s.map Char.toLower

/-- Splits at the first occurrence of `c`, which belongs to neither part. -/
def splitFirst (c : Char) (cs : List Char) : Option (List Char × List Char) :=
  match cs.dropWhile (· != c) with
  | [] => none
  | _ :: rest => some (cs.takeWhile (· != c), rest)

/-- Whether `part` occurs somewhere in `cs`, as an unbroken run. -/
def hasRun (part : List Char) : List Char → Bool
  | [] => part.isEmpty
  | c :: cs => part.isPrefixOf (c :: cs) || hasRun part cs

/-- Whether the text `part` occurs in the text `s`. -/
def contains (s part : String) : Bool := hasRun part.toList s.toList

end HookRelay.Text
