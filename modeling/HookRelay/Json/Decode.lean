import HookRelay.Json.Document
import HookRelay.Text.Quoted

/-!
# Decoding documents

A decoder reads a document into a type. It looks at the document from left to right and refuses
it with the first thing that does not fit: a value of the wrong kind, a field that stands twice,
a fault of the text. Fields that are missing are noticed last, in the order of their declaration.

A record is declared once, as a list of fields that each know how to set themselves
(`Record`); an array stands for a record too, its items being the fields in order.

## Main definitions

* `Mismatch` : why a document does not fit
* `Decoder` : a partial reading of documents
* `Record.decode` : reads a record
-/

namespace HookRelay.Json

/-- What was found in place of something else. -/
inductive Found where
  | null
  | bool (b : Bool)
  | number (n : Number)
  | string (s : String)
  | sequence
  | map
  deriving DecidableEq, Repr

/-- The wording of what was found. -/
def Found.text : Found → String
  | .null => "null"
  | .bool b => s!"boolean `{b}`"
  | .number (.whole n) => s!"integer `{n}`"
  | .number (.float b) => s!"floating point `{(Number.float b).render}`"
  | .string s => s!"string {Text.quote s}"
  | .sequence => "sequence"
  | .map => "map"

/-- Why a document does not fit. -/
inductive Mismatch where
  /-- A value of another kind than expected. -/
  | wrongKind (found : Found) (expected : String)
  /-- A value of the right kind, but not one of those expected. -/
  | wrongValue (found : Found) (expected : String)
  /-- A field that must be there is not. -/
  | missing (field : String)
  /-- A field stands twice. -/
  | twice (field : String)
  /-- An array that stands for a record has too few items. -/
  | tooShort (length : Nat) (expected : String)
  /-- An array that stands for a record has too many items. -/
  | tooLong (length : Nat)
  /-- Anything else, in words. -/
  | other (message : String)
  /-- The text is no JSON from here on. -/
  | unreadable (stop : Stop)
  deriving DecidableEq, Repr

/-- The wording of a mismatch. -/
def Mismatch.message : Mismatch → String
  | .wrongKind found expected => s!"invalid type: {found.text}, expected {expected}"
  | .wrongValue found expected => s!"invalid value: {found.text}, expected {expected}"
  | .missing field => s!"missing field `{field}`"
  | .twice field => s!"duplicate field `{field}`"
  | .tooShort length expected => s!"invalid length {length}, expected {expected}"
  | .tooLong length => s!"invalid length {length}, expected fewer elements in array"
  | .other message => message
  | .unreadable stop => stop.fault.message

/-- A reading of documents. -/
abbrev Decoder (α : Type) := Document → Except Mismatch α

namespace Decoder

/-- What stands at the head of a document. -/
def found : Document → Except Mismatch Found
  | .null => .ok .null
  | .bool b => .ok (.bool b)
  | .number n => .ok (.number n)
  | .string s => .ok (.string s)
  | .array _ _ => .ok .sequence
  | .object _ _ => .ok .map
  | .broken stop => .error (.unreadable stop)

/-- Refuses a document because of its kind. -/
def refuse {α : Type} (expected : String) (d : Document) : Except Mismatch α := do
  .error (.wrongKind (← found d) expected)

/-- Passes over any document that does not break off. -/
def any : Decoder Unit := fun d =>
  match d.value with
  | .ok _ => .ok ()
  | .error stop => .error (.unreadable stop)

/-- Any document, as a tidy value. -/
def value : Decoder Json := fun d =>
  match d.value with
  | .ok j => .ok j.tidy
  | .error stop => .error (.unreadable stop)

/-- A text. -/
def text : Decoder String
  | .string s => .ok s
  | d => refuse "a string" d

/-- A truth value. -/
def flag : Decoder Bool
  | .bool b => .ok b
  | d => refuse "a boolean" d

/-- A whole number from `low` to `high`; the kind of number is named in refusals. -/
def whole (low high : Int) (kind : String) : Decoder Int
  | .number (.whole n) =>
    if low ≤ n && n ≤ high then .ok n else .error (.wrongValue (.number (.whole n)) kind)
  | d => refuse kind d

/-- A signed number of 64 bits. -/
def int64 : Decoder Int := whole (-9223372036854775808) 9223372036854775807 "i64"

/-- A signed number of 32 bits. -/
def int32 : Decoder Int := whole (-2147483648) 2147483647 "i32"

/-- An unsigned number of 16 bits. -/
def nat16 : Decoder Nat := fun d => (whole 0 65535 "u16" d).map Int.toNat

/-- Absent if `null`. -/
def optional {α : Type} (read : Decoder α) : Decoder (Option α)
  | .null => .ok none
  | d => (read d).map some

/-- The items of an array, and then its end. -/
def items {α : Type} (read : Decoder α) (stop : Option Stop) :
    List Document → List α → Except Mismatch (List α)
  | [], acc =>
    match stop with
    | none => .ok acc.reverse
    | some stop => .error (.unreadable stop)
  | d :: ds, acc =>
    match read d with
    | .ok a => items read stop ds (a :: acc)
    | .error e => .error e

/-- An array. -/
def list {α : Type} (read : Decoder α) : Decoder (List α)
  | .array ds stop => items read stop ds []
  | d => refuse "a sequence" d

/-- The fields of an object whose keys are free, and then its end; a later field of the same
key replaces an earlier one. -/
def entries {α : Type} (read : Decoder α) (stop : Option Stop) :
    List (String × Document) → List (String × α) → Except Mismatch (List (String × α))
  | [], acc =>
    match stop with
    | none => .ok acc
    | some stop => .error (.unreadable stop)
  | (k, d) :: ds, acc =>
    match read d with
    | .ok a => entries read stop ds (acc.filter (fun e => e.1 != k) ++ [(k, a)])
    | .error e => .error e

/-- An object whose keys are free. -/
def map {α : Type} (read : Decoder α) : Decoder (List (String × α))
  | .object fs stop => entries read stop fs []
  | d => refuse "a map" d

end Decoder

/-! ## Records -/

/-- Where a field has to be present. -/
inductive Presence where
  /-- Everywhere. -/
  | always
  /-- In the array form only; an object may leave it out. -/
  | inArray
  /-- Nowhere. -/
  | never
  deriving DecidableEq, Repr

/-- A field of a record under construction. -/
structure Field (σ : Type) where
  /-- The key of the field. -/
  name : String
  presence : Presence
  /-- Reads the field and sets it. -/
  set : Document → σ → Except Mismatch σ

/-- A field that must be there. -/
def Field.must {σ α : Type} (name : String) (read : Decoder α) (put : α → σ → σ) : Field σ :=
  ⟨name, .always, fun d s => (read d).map (put · s)⟩

/-- A field that only an object may leave out. -/
def Field.option {σ α : Type} (name : String) (read : Decoder α) (put : α → σ → σ) : Field σ :=
  ⟨name, .inArray, fun d s => (read d).map (put · s)⟩

/-- A field that may be absent. -/
def Field.may {σ α : Type} (name : String) (read : Decoder α) (put : α → σ → σ) : Field σ :=
  ⟨name, .never, fun d s => (read d).map (put · s)⟩

/-- A record: its name in refusals, its blank, and its fields. -/
structure Record (σ : Type) where
  /-- How the record is named in refusals. -/
  what : String
  /-- The record with every field at its default. -/
  blank : σ
  /-- The fields, in the order in which an array lists them. -/
  fields : List (Field σ)
  /-- Whether a field that stands twice replaces the earlier one; such a record has no array
  form. -/
  lenient : Bool := false

namespace Record

variable {σ : Type}

/-- Reads the fields of an object, then its end. -/
def visit (r : Record σ) (stop : Option Stop) :
    List (String × Document) → List String → σ → Except Mismatch (List String × σ)
  | [], seen, s =>
    match stop with
    | none => .ok (seen, s)
    | some stop => .error (.unreadable stop)
  | (k, d) :: rest, seen, s =>
    match r.fields.find? (fun f => f.name = k) with
    | some f =>
      if !r.lenient && seen.contains k then .error (.twice k)
      else
        match f.set d s with
        | .ok s => visit r stop rest (k :: seen) s
        | .error e => .error e
    | none =>
      match Decoder.any d with
      | .ok _ => visit r stop rest seen s
      | .error e => .error e

/-- The first required field that was not seen. -/
def firstMissing (seen : List String) (fields : List (Field σ)) : Option String :=
  (fields.find? (fun f => f.presence = .always && !seen.contains f.name)).map Field.name

/-- How a record is named where its array form has too few items. -/
def lengthText (r : Record σ) : String :=
  let n := r.fields.length
  let noun := if n = 1 then "element" else "elements"
  s!"{r.what} with {n} {noun}"

/-- Reads the items of an array as the fields in order. -/
def visitItems (r : Record σ) (total : Nat) (stop : Option Stop) :
    List (Field σ) → List Document → Nat → σ → Except Mismatch σ
  | [], [], _, s =>
    match stop with
    | none => .ok s
    | some stop => .error (.unreadable stop)
  | [], _ :: _, _, _ => .error (.tooLong total)
  | f :: fs, [], n, s =>
    match stop with
    | some stop => .error (.unreadable stop)
    | none =>
      if f.presence = .never then visitItems r total stop fs [] (n + 1) s
      else .error (.tooShort n r.lengthText)
  | f :: fs, d :: ds, n, s =>
    match f.set d s with
    | .ok s => visitItems r total stop fs ds (n + 1) s
    | .error e => .error e

/-- Reads a record. -/
def decode (r : Record σ) : Decoder σ
  | .object fs stop =>
    match r.visit stop fs [] r.blank with
    | .error e => .error e
    | .ok (seen, s) =>
      match firstMissing seen r.fields with
      | some name => .error (.missing name)
      | none => .ok s
  | .array ds stop =>
    if r.lenient then .error (.wrongKind .sequence r.what)
    else r.visitItems ds.length stop r.fields ds 0 r.blank
  | d => Decoder.refuse r.what d

end Record

/-- Decodes a tidy value. -/
def decode {α : Type} (read : Decoder α) (j : Json) : Except Mismatch α := read j.toDocument

/-- Decodes a whole text: what does not fit comes before what stands behind the value. -/
def decodeText {α : Type} (read : Decoder α) (text : ByteArray) : Except Mismatch α :=
  match Document.read text with
  | (d, trailing) =>
    match read d, trailing with
    | .error e, _ => .error e
    | .ok _, some stop => .error (.unreadable stop)
    | .ok a, none => .ok a

end HookRelay.Json
