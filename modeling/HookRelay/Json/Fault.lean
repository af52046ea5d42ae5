/-!
# Faults of a JSON text

A text that is not JSON is refused with the first fault met when reading from left to right,
and with the line and column at which reading stopped.
-/

namespace HookRelay.Json

/-- What can be wrong with a JSON text. -/
inductive Fault where
  | endInArray
  | endInObject
  | endInString
  | endInValue
  | expectedColon
  | expectedArrayCommaOrEnd
  | expectedObjectCommaOrEnd
  | expectedWord
  | expectedValue
  | invalidEscape
  | invalidNumber
  | numberOutOfRange
  | invalidText
  | controlCharacter
  | keyNotString
  | loneSurrogate
  | trailingComma
  | trailingCharacters
  | unfinishedSurrogatePair
  | nestedTooDeep
  deriving DecidableEq, Repr, Inhabited

/-- The wording of a fault. -/
def Fault.message : Fault → String
  | .endInArray => "EOF while parsing a list"
  | .endInObject => "EOF while parsing an object"
  | .endInString => "EOF while parsing a string"
  | .endInValue => "EOF while parsing a value"
  | .expectedColon => "expected `:`"
  | .expectedArrayCommaOrEnd => "expected `,` or `]`"
  | .expectedObjectCommaOrEnd => "expected `,` or `\x7d`"
  | .expectedWord => "expected ident"
  | .expectedValue => "expected value"
  | .invalidEscape => "invalid escape"
  | .invalidNumber => "invalid number"
  | .numberOutOfRange => "number out of range"
  | .invalidText => "invalid unicode code point"
  | .controlCharacter => "control character (\\u0000-\\u001F) found while parsing a string"
  | .keyNotString => "key must be a string"
  | .loneSurrogate => "lone leading surrogate in hex escape"
  | .trailingComma => "trailing comma"
  | .trailingCharacters => "trailing characters"
  | .unfinishedSurrogatePair => "unexpected end of hex escape"
  | .nestedTooDeep => "recursion limit exceeded"

/-- A fault and the number of bytes read when it was met. -/
structure Stop where
  fault : Fault
  offset : Nat
  deriving DecidableEq, Repr, Inhabited

/-- A fault with its place: lines count from one, columns in bytes. -/
structure ReadError where
  fault : Fault
  line : Nat
  column : Nat
  deriving DecidableEq, Repr, Inhabited

/-- The wording of a fault with its place. -/
def ReadError.message (e : ReadError) : String :=
  s!"{e.fault.message} at line {e.line} column {e.column}"

/-- Moves a place over the byte `b`: a line feed starts a new line. -/
def advancePlace (place : Nat × Nat) (b : UInt8) : Nat × Nat :=
  if b = 10 then (place.1 + 1, 0) else (place.1, place.2 + 1)

/-- The place of a stop within a text. -/
def Stop.locate (text : ByteArray) (s : Stop) : ReadError :=
  let place := text.foldl advancePlace (1, 0) 0 (min s.offset text.size)
  ⟨s.fault, place.1, place.2⟩

end HookRelay.Json
