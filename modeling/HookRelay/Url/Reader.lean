import HookRelay.Url.Basic

/-!
# Reading addresses

An address is read as browsers read it: blanks and control characters around it and tabs and
line ends inside it are dropped, backslashes count as slashes where the scheme is a known one,
characters that may not stand in a part are percent-encoded, and dot segments of a path are
resolved. A text without a scheme is an address only relative to a base.

## Main definitions

* `Url.parse` : the address that a text names by itself
* `Url.join` : the address that a text names relative to a base
-/

namespace HookRelay.Url

/-! ## Classes of characters -/

/-- Characters to encode in a fragment. -/
def unsafeInFragment (c : Char) : Bool := Host.isControl c || " \"<>`".toList.contains c

/-- Characters to encode in a query. -/
def unsafeInQuery (kind : SchemeKind) (c : Char) : Bool :=
  Host.isControl c || " \"#<>".toList.contains c || (kind.isSpecial && c = '\'')

/-- Characters to encode in a path. -/
def unsafeInPath (c : Char) : Bool := unsafeInFragment c || "#?\x7b\x7d".toList.contains c

/-- Characters to encode in a user's name or password. -/
def unsafeInUser (c : Char) : Bool := unsafeInPath c || "/:;=@[\\]^|".toList.contains c

/-- Characters to encode in a segment that is added to a path. -/
def unsafeInSegment (kind : SchemeKind) (c : Char) : Bool :=
  unsafeInPath c || c = '/' || c = '%' || (kind.isSpecial && c = '\\')

/-- Tabs and line ends, which are dropped wherever they stand. -/
def isDropped (c : Char) : Bool := c = '\t' || c = '\n' || c = '\r'

/-- Whether a character ends an authority. -/
def endsAuthority (kind : SchemeKind) (c : Char) : Bool :=
  c = '/' || c = '?' || c = '#' || (kind.isSpecial && c = '\\')

/-- Whether a character counts as a slash. -/
def isSlash (kind : SchemeKind) (c : Char) : Bool := c = '/' || (kind.isSpecial && c = '\\')

/-- An encoded part as a text. -/
def encoded (isUnsafe : Char → Bool) (cs : List Char) : String :=
  String.ofList (Text.percentEncode isUnsafe cs)

/-! ## Paths -/

/-- The spellings of a segment that stays where it is. -/
def isSingleDot (s : String) : Bool := [".", "%2e", "%2E"].contains s

/-- The spellings of a segment that goes back. -/
def isDoubleDot (s : String) : Bool :=
  ["..", ".%2e", ".%2E", "%2e.", "%2E.", "%2e%2e", "%2e%2E", "%2E%2e", "%2E%2E"].contains s

/-- Whether a segment is a letter and a colon or a bar. -/
def isDriveLetter (s : List Char) : Bool :=
  match s with
  | [c, d] => c.isAlpha && (d = ':' || d = '|')
  | _ => false

/-- Goes back by one segment; the drive letter of a file's path stays. -/
def shorten (kind : SchemeKind) (back : List String) : List String :=
  match kind, back with
  | .file, [s] => if isDriveLetter s.toList && s.toList.getLast? = some ':' then [s] else []
  | _, _ :: rest => rest
  | _, [] => []

/-- Adds one segment to those in `back`, the last of which comes first. -/
def addSegment (kind : SchemeKind) (segment : List Char) (isLast : Bool) (back : List String) :
    List String :=
  let s := encoded unsafeInPath segment
  if isDoubleDot s then
    let back := shorten kind back
    if isLast then "" :: back else back
  else if isSingleDot s then
    if isLast then "" :: back else back
  else if kind = .file && back.isEmpty && isDriveLetter segment then
    String.ofList (segment.take 1 ++ [':']) :: back
  else s :: back

/-- Reads segments up to the query or the fragment; gives all segments, the last one first, and
the rest. -/
def readSegments (kind : SchemeKind) : (segment : List Char) → List Char → List String →
    List String × List Char
  | segment, [], back => (addSegment kind segment.reverse true back, [])
  | segment, c :: cs, back =>
    if c = '?' || c = '#' then (addSegment kind segment.reverse true back, c :: cs)
    else if isSlash kind c then readSegments kind [] cs (addSegment kind segment.reverse false back)
    else readSegments kind (c :: segment) cs back

/-- Drops the empty segments in front of a file's path. -/
def dropEmptyFront : List String → List String
  | "" :: s :: rest => dropEmptyFront (s :: rest)
  | l => l

/-- Reads a path behind its first slash, continuing the segments in `back`. -/
def readPath (kind : SchemeKind) (cs : List Char) (back : List String) : Path × List Char :=
  let (back, rest) := readSegments kind [] cs back
  let list := back.reverse
  (.segments (if kind = .file then dropEmptyFront list else list), rest)

/-- Reads the path behind an authority; a slash that should begin it may be missing. -/
def readPathStart (kind : SchemeKind) (cs : List Char) : Path × List Char :=
  match cs with
  | [] => if kind.isSpecial then (.segments [""], []) else (.segments [], [])
  | c :: rest =>
    if isSlash kind c then readPath kind rest []
    else if !kind.isSpecial && (c = '?' || c = '#') then (.segments [], cs)
    else readPath kind cs []

/-! ## Query and fragment -/

/-- Reads what is left behind a path. -/
def readQueryAndFragment (kind : SchemeKind) (cs : List Char) : Option String × Option String :=
  let fragment (cs : List Char) : Option String :=
    match cs with
    | '#' :: rest => some (encoded unsafeInFragment rest)
    | _ => none
  match cs with
  | '?' :: rest =>
    (some (encoded (unsafeInQuery kind) (rest.takeWhile (· != '#'))),
      fragment (rest.dropWhile (· != '#')))
  | cs => (none, fragment cs)

/-- Puts an address together. -/
def assemble (scheme : String) (authority : Option Authority) (path : Path × List Char) : Url :=
  let (query, fragment) := readQueryAndFragment (schemeKind scheme) path.2
  ⟨scheme, authority, path.1, query, fragment⟩

/-! ## Authorities -/

/-- Splits behind the last `@` of an authority, if it has one. -/
def splitUser (cs : List Char) : Option (List Char × List Char) :=
  let host := (cs.reverse.takeWhile (· != '@')).reverse
  if host.length = cs.length then none
  else some (cs.take (cs.length - host.length - 1), host)

/-- Splits before the first colon outside of brackets. -/
def splitPort : (inBrackets : Bool) → List Char → List Char × List Char
  | _, [] => ([], [])
  | inBrackets, c :: cs =>
    if c = ':' && !inBrackets then ([], c :: cs)
    else
      let inside := if c = '[' then true else if c = ']' then false else inBrackets
      let (a, b) := splitPort inside cs
      (c :: a, b)

/-- Reads a port, given what stands behind its colon. -/
def readPort (scheme : String) (cs : List Char) : Except Fault (Option Nat) :=
  if !cs.all Char.isDigit then .error .invalidPort
  else
    let n := cs.foldl (fun n c => min (n * 10 + (c.toNat - 48)) 70000) 0
    if n > 65535 then .error .invalidPort
    else if cs.isEmpty || usualPort? scheme = some n then .ok none
    else .ok (some n)

/-- Reads an authority and the path behind it. -/
def readAuthority (scheme : String) (cs : List Char) : Except Fault Url := do
  let kind := schemeKind scheme
  let section_ := cs.takeWhile (fun c => !endsAuthority kind c)
  let rest := cs.dropWhile (fun c => !endsAuthority kind c)
  let user := splitUser section_
  let hostPart := (user.map Prod.snd).getD section_
  let name := ((user.map Prod.fst).getD []).takeWhile (· != ':')
  let word := (((user.map Prod.fst).getD []).dropWhile (· != ':')).drop 1
  if user.any (fun u => u.1.isEmpty) && hostPart.isEmpty && !rest.isEmpty then .error .emptyHost
  let (hostText, portText) := splitPort false hostPart
  if kind.isSpecial && hostText.isEmpty then .error .emptyHost
  let host ← if kind.isSpecial then Host.read hostText else Host.readPlain hostText
  if host = .domain "" && (!portText.isEmpty || !name.isEmpty || !word.isEmpty) then
    .error .emptyHost
  -- a backslash behind a port ends it even where it is no slash
  let port := portText.drop 1
  let digits := if kind.isSpecial then port else port.takeWhile (· != '\\')
  let p ← readPort scheme digits
  let rest := port.drop digits.length ++ rest
  .ok (assemble scheme
    (some ⟨encoded unsafeInUser name, encoded unsafeInUser word, host, p⟩)
    (readPathStart kind rest))

/-- Reads an address of the scheme `file` behind its colon. -/
def readFile (cs : List Char) : Except Fault Url :=
  let nowhere : Authority := ⟨"", "", .domain "", none⟩
  match cs with
  | a :: b :: rest =>
    if isSlash .file a && isSlash .file b then do
      let hostText := rest.takeWhile (fun c => !endsAuthority .file c)
      let after := rest.dropWhile (fun c => !endsAuthority .file c)
      if isDriveLetter hostText then
        .ok (assemble "file" (some nowhere) (readPath .file rest []))
      else
        let host ← if hostText.isEmpty then .ok (Host.domain "") else Host.read hostText
        let host := if host = .domain "localhost" then .domain "" else host
        .ok (assemble "file" (some { nowhere with host := host }) (readPathStart .file after))
    else plain nowhere
  | _ => plain nowhere
where
  /-- No authority is written. -/
  plain (nowhere : Authority) : Except Fault Url :=
    .ok (assemble "file" (some nowhere) (readPathStart .file cs))

/-! ## Addresses -/

/-- Drops what does not count: blanks and control characters around, tabs and line ends inside. -/
def clean (text : String) : List Char :=
  let edge (c : Char) : Bool := c.toNat ≤ 0x20
  ((((text.toList.dropWhile edge).reverse).dropWhile edge).reverse).filter (fun c => !isDropped c)

/-- Splits a scheme off. -/
def splitScheme (cs : List Char) : Option (String × List Char) :=
  let isSchemeChar (c : Char) : Bool := c.isAlphanum || c = '+' || c = '-' || c = '.'
  match cs with
  | [] => none
  | c :: _ =>
    if !c.isAlpha then none
    else
      match cs.dropWhile isSchemeChar with
      | ':' :: rest => some (String.ofList ((cs.takeWhile isSchemeChar).map Char.toLower), rest)
      | _ => none

/-- Reads an address of an unknown scheme behind its colon. -/
def readOther (scheme : String) (cs : List Char) : Except Fault Url :=
  match cs with
  | '/' :: '/' :: rest => readAuthority scheme rest
  | '/' :: rest => .ok (assemble scheme none (readPath .other rest []))
  | cs =>
    let ends (c : Char) : Bool := c = '?' || c = '#'
    .ok (assemble scheme none
      (.plain (encoded Host.isControl (cs.takeWhile (fun c => !ends c))),
        cs.dropWhile (fun c => !ends c)))

/-- The segments of a path, the last one first. -/
def Path.backSegments : Path → List String
  | .segments l => l.reverse
  | .plain _ => []

/-- Reads a text without a scheme relative to a base with a path of segments. -/
def readRelative (base : Url) (cs : List Char) : Except Fault Url :=
  let kind := schemeKind base.scheme
  match cs with
  | [] => .ok { base with fragment := none }
  | '?' :: _ =>
    let (query, fragment) := readQueryAndFragment kind cs
    .ok { base with query := query, fragment := fragment }
  | '#' :: _ => .ok { base with fragment := (readQueryAndFragment kind cs).2 }
  | c :: rest =>
    if c = '/' || c = '\\' then
      match rest with
      | d :: after =>
        if d = '/' || d = '\\' then
          if c = '/' && d = '/' then readAuthority base.scheme after
          else readAuthority base.scheme (after.dropWhile (fun e => e = '/' || e = '\\'))
        else .ok (assemble base.scheme base.authority (readPath kind rest []))
      | [] => .ok (assemble base.scheme base.authority (readPath kind rest []))
    else
      .ok (assemble base.scheme base.authority (readPath kind cs (base.path.backSegments.drop 1)))

/-- Reads a cleaned text, relative to a base if there is one. -/
def readFrom (base : Option Url) (cs : List Char) : Except Fault Url :=
  match splitScheme cs with
  | some (scheme, rest) =>
    match schemeKind scheme with
    | .file => readFile rest
    | .other => readOther scheme rest
    | .web =>
      let slashes := rest.takeWhile (fun c => c = '/' || c = '\\')
      match base with
      | some b =>
        if slashes.length < 2 && b.scheme = scheme then readRelative b rest
        else readAuthority scheme (rest.drop slashes.length)
      | none => readAuthority scheme (rest.drop slashes.length)
  | none =>
    match base with
    | none => .error .relativeWithoutBase
    | some b =>
      match b.path, cs with
      | .plain _, '#' :: _ => .ok { b with fragment := (readQueryAndFragment .other cs).2 }
      | .plain _, _ => .error .relativeWithOpaqueBase
      | .segments _, _ => readRelative b cs

/-- The address that a text names by itself. -/
def parse (text : String) : Except Fault Url := readFrom none (clean text)

/-- The address that a text names relative to a base. -/
def join (base : Url) (text : String) : Except Fault Url := readFrom (some base) (clean text)

/-! ## Adding segments -/

/-- The segments behind the last one of which another one goes, the last one first: the empty
segment of the path `/` gives way. -/
def Path.openSegments : Path → List String
  | .segments [""] => []
  | p => p.backSegments

/-- Adds a segment to the end of a path. The segments `.` and `..` are left out. -/
def pushSegment (segment : String) (u : Url) : Url :=
  match u.path with
  | .plain _ => u
  | .segments _ =>
    if segment = "." || segment = ".." then u
    else
      let kind := schemeKind u.scheme
      let s := segment.toList.filter (fun c => !isDropped c)
      let back := u.path.openSegments
      let back :=
        if s = ['.', '.'] then "" :: shorten kind back
        else if s = ['.'] then "" :: back
        else encoded (unsafeInSegment kind) s :: back
      { u with path := .segments back.reverse }

/-- Drops the last segment of a path if it is empty; the path `/` stays. -/
def popEmptySegment (u : Url) : Url :=
  match u.path with
  | .plain _ => u
  | .segments l =>
    if l.length > 1 && l.getLast? = some "" then { u with path := .segments l.dropLast } else u

end HookRelay.Url
