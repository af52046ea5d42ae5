import HookRelay.Event.Category

/-!
# The event header of a delivery

A delivery names its event in the header `X-Gitlab-Event`: one or more words, a blank between two of
them, and then ` Hook`. A word is an ASCII letter followed by ASCII letters and digits. What stands
before ` Hook` is captured, its blanks are replaced by underscores and its letters by small ones.
The token that this gives is the kind of the payload, except for a few categories that have words of
their own but share the payload of another.

## Main definitions

* `areWords` : the form of what stands before `ending`
* `captured?` : what stands there
* `aliases`, `resolveAlias` : the tokens that stand for another one
* `kindOfHeader?` : the kind a header names
-/

namespace HookRelay.Event

/-- What every `X-Gitlab-Event` ends in. -/
def ending : List Char := [' ', 'H', 'o', 'o', 'k']

/-- Whether a text consists of words, with one blank between two of them. The flag tells whether a
word has been begun, which the first letter of a word does. -/
def areWords : Bool → List Char → Bool
  | within, [] => within
  | false, c :: cs => c.isAlpha && areWords true cs
  | true, c :: cs => if c = ' ' then areWords false cs else c.isAlphanum && areWords true cs

/-- What stands before the `ending` of a header, which must be words. -/
def captured? (header : String) : Option String :=
  let cs := header.toList
  let words := cs.take (cs.length - ending.length)
  if ending.isSuffixOf cs && areWords false words then some (String.ofList words) else none

/-- A text with underscores in place of blanks. -/
def underscored (s : String) : String := s.map fun c => if c = ' ' then '_' else c

/-- Tokens of headers that name the same payload as other tokens. -/
def aliases : List (String × String) :=
  [("confidential_issue", "issue"), ("confidential_note", "note"), ("job", "build")]

/-- The kind of payload that a token names: what `aliases` say, or else the token itself. -/
def resolveAlias (token : String) : String := (aliases.lookup token).getD token

/-- The kind of payload that a header names. -/
def kindOfHeader? (header : String) : Option String :=
  (captured? header).map fun words => resolveAlias (underscored words).toLower

end HookRelay.Event
