/-!
# Media types

The type of a body, as a header names it: a type and a subtype, which may end in a suffix, and
parameters behind them. Letters count the same in both cases.

## Main definitions

* `MediaType.read` : reads a media type
* `MediaType.isJson` : whether a body of the type is JSON
-/

namespace HookRelay.Http

/-- A media type without its parameters, in small letters. -/
structure MediaType where
  type : String
  subtype : String
  suffix : Option String
  deriving DecidableEq, Repr

namespace MediaType

/-- Whether a character may stand in a word. -/
def isWordChar (c : Char) : Bool := c.isAlphanum || "!#$%&'*+-.^_`|~".toList.contains c

/-- Whether a character may stand between quotes. -/
def isQuotedChar (c : Char) : Bool := 31 < c.toNat && c.toNat ≠ 127

/-- Where a list of parameters is being read, and whether that place has just been entered. -/
inductive Place where
  | name (fresh : Bool)
  | value (fresh : Bool)
  | quoted (fresh : Bool)
  | behindQuotes
  deriving DecidableEq, Repr

/-- Whether a text is a list of parameters. -/
def areParameters : Place → List Char → Bool
  | .name fresh, [] => fresh
  | .name fresh, c :: cs =>
    if c = ' ' && fresh then areParameters (.name true) cs
    else if c = '=' then !fresh && areParameters (.value true) cs
    else isWordChar c && areParameters (.name false) cs
  | .value _, [] => true
  | .value fresh, c :: cs =>
    if c = '"' && fresh then areParameters (.quoted true) cs
    else if c = ';' then !fresh && areParameters (.name true) cs
    else isWordChar c && areParameters (.value false) cs
  | .quoted _, [] => false
  | .quoted fresh, c :: cs =>
    if c = '"' && !fresh then areParameters .behindQuotes cs
    else isQuotedChar c && areParameters (.quoted false) cs
  | .behindQuotes, [] => true
  | .behindQuotes, c :: cs =>
    if c = ';' then areParameters (.name true) cs
    else c = ' ' && areParameters .behindQuotes cs

/-- Splits a subtype before its last plus sign; one at the beginning starts no suffix. -/
def splitSuffix (cs : List Char) : String × Option String :=
  let back := cs.reverse
  let suffix := back.takeWhile (· != '+')
  let rest := back.drop (suffix.length + 1)
  if rest.isEmpty then (String.ofList cs, none)
  else (String.ofList rest.reverse, some (String.ofList suffix.reverse))

/-- Reads a media type. -/
def read (text : String) : Option MediaType :=
  let cs := text.toList.map Char.toLower
  let type := cs.takeWhile (· != '/')
  match cs.drop type.length with
  | [] => none
  | _ :: rest =>
    let sub := rest.takeWhile (· != ';')
    let tail := rest.drop sub.length
    if type.isEmpty || !type.all isWordChar || !sub.all isWordChar then none
    else if sub.isEmpty && !tail.isEmpty then none
    else if !areParameters (.name true) (tail.drop 1) then none
    else
      let (subtype, suffix) := splitSuffix sub
      some ⟨String.ofList type, subtype, suffix⟩

/-- Whether a body of the type is JSON. -/
def isJson (m : MediaType) : Bool :=
  m.type = "application" && (m.subtype = "json" || m.suffix = some "json")

end MediaType

end HookRelay.Http
