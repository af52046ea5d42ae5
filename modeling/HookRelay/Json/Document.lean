import HookRelay.Json.Fault
import HookRelay.Json.Number

/-!
# Reading JSON text

A text is read into a `Document`: a value as far as it could be read, with the place where
reading stopped. A decoder that looks at a document from left to right therefore meets a wrong
value before a fault that stands behind it, and a fault before a wrong value behind it.

Reading goes by byte offsets. Arrays and objects may be nested 127 deep; the depth left is
what value reading recurses on, and every loop inside a level moves to a larger offset.

## Main definitions

* `Document` : a value whose arrays and objects may break off
* `Document.read` : reads a whole text; what follows the value is the second component
* `parse` : a value, or the first fault of the text
-/

namespace HookRelay.Json

/-- A JSON value as far as it could be read. An array or an object that breaks off between two
entries carries the fault met there; a value that breaks off itself is `broken`. -/
inductive Document where
  | null
  | bool (b : Bool)
  | number (n : Number)
  | string (s : String)
  | array (items : List Document) (stop : Option Stop)
  | object (fields : List (String × Document)) (stop : Option Stop)
  | broken (stop : Stop)
  deriving Repr, Inhabited

/-! ## Bytes -/

/-- Whether a byte is a blank between tokens. -/
def isSpaceByte (b : UInt8) : Bool := b = 32 || b = 10 || b = 9 || b = 13

/-- The value of a decimal digit. -/
def digitValue? (b : UInt8) : Option Nat :=
  if 48 ≤ b && b ≤ 57 then some (b.toNat - 48) else none

/-- The value of a hexadecimal digit. -/
def hexValue? (b : UInt8) : Option Nat :=
  if 48 ≤ b && b ≤ 57 then some (b.toNat - 48)
  else if 65 ≤ b && b ≤ 70 then some (b.toNat - 55)
  else if 97 ≤ b && b ≤ 102 then some (b.toNat - 87)
  else none

/-- The first offset from `pos` on that holds no blank. -/
def skipSpace (text : ByteArray) (pos : Nat) : Nat :=
  if h : pos < text.size then
    if isSpaceByte text[pos] then skipSpace text (pos + 1) else pos
  else pos
termination_by text.size - pos

/-- Skipping blanks never moves back. -/
theorem le_skipSpace (text : ByteArray) (pos : Nat) : pos ≤ skipSpace text pos := by
  fun_induction skipSpace text pos with
  | case1 pos h hs ih => omega
  | case2 pos h hs => omega
  | case3 pos h => omega

/-- A stop just behind the byte at `pos`, or at the end of the text. -/
def stopBehind (text : ByteArray) (pos : Nat) (fault : Fault) : Stop :=
  ⟨fault, min text.size (pos + 1)⟩

/-! ## Words and numbers -/

/-- Reads the rest of a word that begins before `pos`. -/
def readWord (text : ByteArray) (pos : Nat) : List UInt8 → Except Stop Nat
  | [] => .ok pos
  | b :: bs =>
    match text[pos]? with
    | none => .error ⟨.endInValue, pos⟩
    | some c => if c = b then readWord text (pos + 1) bs else .error ⟨.expectedWord, pos + 1⟩

/-- Folds over the digits from `pos` on, and gives the offset behind them. -/
def foldDigits {σ : Type} (text : ByteArray) (step : σ → Nat → σ) (pos : Nat) (state : σ) :
    σ × Nat :=
  if h : pos < text.size then
    match digitValue? text[pos] with
    | some d => foldDigits text step (pos + 1) (step state d)
    | none => (state, pos)
  else (state, pos)
termination_by text.size - pos

/-- Whether `n * 10 + d` no longer fits into 64 bits. -/
def overflows (n d : Nat) : Bool := n * 10 + d ≥ Nat.pow 2 64

/-- The digits before the point: the number as long as it fits, and how many digits were left
out after that. -/
def integerStep (s : Nat × Nat) (d : Nat) : Nat × Nat :=
  if s.2 = 0 && !overflows s.1 d then (s.1 * 10 + d, 0) else (s.1, s.2 + 1)

/-- The digits behind the point: the number as long as it fits, how many digits were taken,
and whether digits are being left out. -/
def fractionStep (s : Nat × Nat × Bool) (d : Nat) : Nat × Nat × Bool :=
  if s.2.2 || overflows s.1 d then (s.1, s.2.1, true) else (s.1 * 10 + d, s.2.1 + 1, false)

/-- The digits of an exponent: the number while it is below `2 ^ 31`, and the offset of the
first digit that leads above. -/
def exponentStep (s : Nat × Nat × Option Nat) (d : Nat) : Nat × Nat × Option Nat :=
  match s with
  | (n, seen, some at_) => (n, seen + 1, some at_)
  | (n, seen, none) =>
    if n * 10 + d ≥ Nat.pow 2 31 then (n, seen + 1, some seen) else (n * 10 + d, seen + 1, none)

/-- The double of a scaled number, at the offset behind its text. -/
def scaledAt (negative : Bool) (n : Nat) (exponent : Int) (pos : Nat) :
    Except Stop (Number × Nat) :=
  match Number.ofScaled negative n.toUInt64 exponent with
  | some x => .ok (x, pos)
  | none => .error ⟨.numberOutOfRange, pos⟩

/-- Reads an exponent; `pos` is the offset of its letter. -/
def readExponent (text : ByteArray) (negative : Bool) (n : Nat) (base : Int) (pos : Nat) :
    Except Stop (Number × Nat) :=
  let signed : Bool × Nat :=
    match text[pos + 1]? with
    | some 43 => (true, pos + 2)
    | some 45 => (false, pos + 2)
    | _ => (true, pos + 1)
  let start := signed.2
  match text[start]? with
  | none => .error ⟨.endInValue, start⟩
  | some b =>
    match digitValue? b with
    | none => .error ⟨.invalidNumber, start + 1⟩
    | some _ =>
      let r := foldDigits text exponentStep start (0, 0, none)
      match r.1.2.2 with
      | some seen =>
        if n ≠ 0 && signed.1 then .error ⟨.numberOutOfRange, start + seen + 1⟩
        else .ok (.float (if negative then (-0.0 : Float) else 0.0).toBits, r.2)
      | none =>
        let e : Int := if signed.1 then r.1.1 else -(r.1.1 : Int)
        scaledAt negative n (base + e) r.2

/-- Whether a byte begins an exponent. -/
def isExponentByte (b : UInt8) : Bool := b = 101 || b = 69

/-- Reads what may follow the digits before the point: a fraction, an exponent, both or
neither. `dropped` of those digits are not in `n`. -/
def readTail (text : ByteArray) (negative : Bool) (n dropped pos : Nat) :
    Except Stop (Number × Nat) :=
  match text[pos]? with
  | some 46 =>
    let r := foldDigits text fractionStep (pos + 1) (n, 0, false)
    if r.2 = pos + 1 then
      match text[pos + 1]? with
      | some _ => .error (stopBehind text (pos + 1) .invalidNumber)
      | none => .error ⟨.endInValue, pos + 1⟩
    else
      let exponent : Int := (dropped : Int) - r.1.2.1
      match text[r.2]? with
      | some b =>
        if isExponentByte b then readExponent text negative r.1.1 exponent r.2
        else scaledAt negative r.1.1 exponent r.2
      | none => scaledAt negative r.1.1 exponent r.2
  | some b =>
    if isExponentByte b then readExponent text negative n dropped pos
    else plain
  | none => plain
where
  /-- Neither fraction nor exponent. -/
  plain : Except Stop (Number × Nat) :=
    if dropped = 0 then .ok (Number.ofDigits negative n.toUInt64, pos)
    else scaledAt negative n dropped pos

/-- Reads a number; `pos` is the offset of its first digit. -/
def readNumber (text : ByteArray) (negative : Bool) (pos : Nat) : Except Stop (Number × Nat) :=
  match text[pos]? with
  | none => .error ⟨.endInValue, pos⟩
  | some 48 =>
    match text[pos + 1]? with
    | some b =>
      match digitValue? b with
      | some _ => .error (stopBehind text (pos + 1) .invalidNumber)
      | none => readTail text negative 0 0 (pos + 1)
    | none => readTail text negative 0 0 (pos + 1)
  | some b =>
    match digitValue? b with
    | none => .error ⟨.invalidNumber, pos + 1⟩
    | some _ =>
      let r := foldDigits text integerStep pos (0, 0)
      readTail text negative r.1.1 r.1.2 r.2

/-! ## Strings -/

/-- The first offset from `pos` on that holds a quote, a backslash or a control character. -/
def skipPlain (text : ByteArray) (pos : Nat) : Nat :=
  if h : pos < text.size then
    let b := text[pos]
    if b = 34 || b = 92 || b < 32 then pos else skipPlain text (pos + 1)
  else pos
termination_by text.size - pos

/-- Skipping the plain part of a string never moves back. -/
theorem le_skipPlain (text : ByteArray) (pos : Nat) : pos ≤ skipPlain text pos := by
  fun_induction skipPlain text pos with
  | case1 pos h b hb => omega
  | case2 pos h b hb ih => omega
  | case3 pos h => omega

/-- Reads four hexadecimal digits. -/
def readHex (text : ByteArray) (pos : Nat) : Except Stop (Nat × Nat) :=
  if pos + 4 ≤ text.size then
    match (text[pos]?).bind hexValue?, (text[pos + 1]?).bind hexValue?,
      (text[pos + 2]?).bind hexValue?, (text[pos + 3]?).bind hexValue? with
    | some a, some b, some c, some d => .ok (((a * 16 + b) * 16 + c) * 16 + d, pos + 4)
    | _, _, _, _ => .error ⟨.invalidEscape, pos + 4⟩
  else .error ⟨.endInString, text.size⟩

/-- Reads the digits of a `\u` escape, and those of a second one where the first is the
leading half of a surrogate pair. -/
def readUnicode (text : ByteArray) (pos : Nat) : Except Stop (Char × Nat) := do
  let (n, p) ← readHex text pos
  if 0xDC00 ≤ n && n ≤ 0xDFFF then .error ⟨.loneSurrogate, p⟩
  else if n < 0xD800 || 0xDFFF < n then .ok (Char.ofNat n, p)
  else
    match text[p]? with
    | none => .error ⟨.endInString, p⟩
    | some 92 =>
      match text[p + 1]? with
      | none => .error ⟨.endInString, p + 1⟩
      | some 117 => do
        let (m, q) ← readHex text (p + 2)
        if m < 0xDC00 || 0xDFFF < m then .error ⟨.loneSurrogate, q⟩
        else .ok (Char.ofNat ((n - 0xD800) * 0x400 + (m - 0xDC00) + 0x10000), q)
      | some _ => .error ⟨.unfinishedSurrogatePair, p + 2⟩
    | some _ => .error ⟨.unfinishedSurrogatePair, p + 1⟩

/-- Reads what follows a backslash. -/
def readEscape (text : ByteArray) (pos : Nat) : Except Stop (Char × Nat) :=
  match text[pos]? with
  | none => .error ⟨.endInString, pos⟩
  | some 34 => .ok ('"', pos + 1)
  | some 92 => .ok ('\\', pos + 1)
  | some 47 => .ok ('/', pos + 1)
  | some 98 => .ok ('\x08', pos + 1)
  | some 102 => .ok ('\x0c', pos + 1)
  | some 110 => .ok ('\n', pos + 1)
  | some 114 => .ok ('\r', pos + 1)
  | some 116 => .ok ('\t', pos + 1)
  | some 117 => readUnicode text (pos + 1)
  | some _ => .error ⟨.invalidEscape, pos + 1⟩

/-- Reads the rest of a string; `acc` holds the bytes of what was read of it. -/
def readStringBytes (text : ByteArray) (pos : Nat) (acc : ByteArray) :
    Except Stop (ByteArray × Nat) :=
  let p := skipPlain text pos
  if h : p < text.size then
    let b := text[p]
    let acc := if pos < p then acc ++ text.extract pos p else acc
    if b = 34 then .ok (acc, p + 1)
    else if b = 92 then
      match readEscape text (p + 1) with
      | .error e => .error e
      | .ok (c, q) => readStringBytes text (max (p + 1) q) (acc ++ c.toString.toUTF8)
    else .error ⟨.controlCharacter, p + 1⟩
  else .error ⟨.endInString, p⟩
termination_by text.size - pos
decreasing_by
  have := le_skipPlain text pos
  omega

/-- The first offset from `pos` on at which no character of UTF-8 begins; `fuel` bounds the number
of characters that are passed. -/
def firstInvalid (text : ByteArray) : Nat → Nat → Nat
  | 0, pos => pos
  | fuel + 1, pos =>
    match text.utf8DecodeChar? pos with
    | some c => firstInvalid text fuel (pos + c.utf8Size)
    | none => pos

/-- Reads a string whose opening quote stands before `pos`. Bytes that are no UTF-8 are noticed
when the string has ended, and found at the first of them. -/
def readString (text : ByteArray) (pos : Nat) : Except Stop (String × Nat) := do
  let (bytes, p) ← readStringBytes text pos ByteArray.empty
  match String.fromUTF8? bytes with
  | some s => .ok (s, p)
  | none => .error ⟨.invalidText, firstInvalid text text.size pos + 1⟩

/-! ## Arrays, objects and values -/

/-- A value and the offset behind it, absent if the value breaks off. -/
abbrev Reading := Document × Option Nat

/-- The reading of a value without parts. -/
def Reading.ofScalar {α : Type} (make : α → Document) : Except Stop (α × Nat) → Reading
  | .ok (a, p) => (make a, some p)
  | .error e => (.broken e, none)

/-- Reads the items behind the first one. `value` reads one value and is never taken to move
back. -/
def readItems (text : ByteArray) (value : Nat → Reading) (pos : Nat) (acc : List Document) :
    Reading :=
  let p := skipSpace text pos
  if h : p < text.size then
    let b := text[p]
    if b = 93 then (.array acc.reverse none, some (p + 1))
    else if b = 44 then
      let q := skipSpace text (p + 1)
      match text[q]? with
      | none => (.array acc.reverse (some (stopBehind text q .endInValue)), none)
      | some 93 => (.array acc.reverse (some (stopBehind text q .trailingComma)), none)
      | some _ =>
        match value q with
        | (item, some r) => readItems text value (max (p + 1) r) (item :: acc)
        | (item, none) => (.array (item :: acc).reverse none, none)
    else (.array acc.reverse (some (stopBehind text p .expectedArrayCommaOrEnd)), none)
  else (.array acc.reverse (some (stopBehind text p .endInArray)), none)
termination_by text.size - pos
decreasing_by
  have := le_skipSpace text pos
  omega

/-- Reads an array whose opening bracket stands before `pos`. -/
def readArray (text : ByteArray) (value : Nat → Reading) (pos : Nat) : Reading :=
  let p := skipSpace text pos
  match text[p]? with
  | none => (.array [] (some (stopBehind text p .endInArray)), none)
  | some 93 => (.array [] none, some (p + 1))
  | some _ =>
    match value p with
    | (item, some r) => readItems text value r [item]
    | (item, none) => (.array [item] none, none)

/-- Reads a key, the colon and a value; `pos` is the offset of the key's quote. The key is
absent if it could not be read; then the value is the fault. -/
def readField (text : ByteArray) (value : Nat → Reading) (pos : Nat) :
    Except Stop (String × Reading) := do
  let (key, p) ← readString text (pos + 1)
  let q := skipSpace text p
  match text[q]? with
  | some 58 =>
    let r := skipSpace text (q + 1)
    .ok (key, value r)
  | some _ => .ok (key, (.broken (stopBehind text q .expectedColon), none))
  | none => .ok (key, (.broken (stopBehind text q .endInObject), none))

/-- Reads the fields behind the first one. -/
def readFields (text : ByteArray) (value : Nat → Reading) (pos : Nat)
    (acc : List (String × Document)) : Reading :=
  let p := skipSpace text pos
  if h : p < text.size then
    let b := text[p]
    if b = 125 then (.object acc.reverse none, some (p + 1))
    else if b = 44 then
      let q := skipSpace text (p + 1)
      match text[q]? with
      | some 34 =>
        match readField text value q with
        | .ok (key, v, some r) => readFields text value (max (p + 1) r) ((key, v) :: acc)
        | .ok (key, v, none) => (.object ((key, v) :: acc).reverse none, none)
        | .error e => (.object acc.reverse (some e), none)
      | some 125 => (.object acc.reverse (some (stopBehind text q .trailingComma)), none)
      | some _ => (.object acc.reverse (some (stopBehind text q .keyNotString)), none)
      | none => (.object acc.reverse (some (stopBehind text q .endInValue)), none)
    else (.object acc.reverse (some (stopBehind text p .expectedObjectCommaOrEnd)), none)
  else (.object acc.reverse (some (stopBehind text p .endInObject)), none)
termination_by text.size - pos
decreasing_by
  have := le_skipSpace text pos
  omega

/-- Reads an object whose opening brace stands before `pos`. -/
def readObject (text : ByteArray) (value : Nat → Reading) (pos : Nat) : Reading :=
  let p := skipSpace text pos
  match text[p]? with
  | none => (.object [] (some (stopBehind text p .endInObject)), none)
  | some 125 => (.object [] none, some (p + 1))
  | some 34 =>
    match readField text value p with
    | .ok (key, v, some r) => readFields text value r [(key, v)]
    | .ok (key, v, none) => (.object [(key, v)] none, none)
    | .error e => (.object [] (some e), none)
  | some _ => (.object [] (some (stopBehind text p .keyNotString)), none)

/-- Reads a value at `pos`, where no blank stands; arrays and objects may open `depth` more
levels. -/
def readValue (text : ByteArray) : (depth : Nat) → (pos : Nat) → Reading
  | depth, pos =>
    match text[pos]? with
    | none => (.broken (stopBehind text pos .endInValue), none)
    | some 110 => word pos .null [117, 108, 108]
    | some 116 => word pos (.bool true) [114, 117, 101]
    | some 102 => word pos (.bool false) [97, 108, 115, 101]
    | some 34 => Reading.ofScalar .string (readString text (pos + 1))
    | some 45 => Reading.ofScalar .number (readNumber text true (pos + 1))
    | some 91 =>
      match depth with
      | 0 => (.broken (stopBehind text pos .nestedTooDeep), none)
      | depth + 1 => readArray text (readValue text depth) (pos + 1)
    | some 123 =>
      match depth with
      | 0 => (.broken (stopBehind text pos .nestedTooDeep), none)
      | depth + 1 => readObject text (readValue text depth) (pos + 1)
    | some b =>
      match digitValue? b with
      | some _ => Reading.ofScalar .number (readNumber text false pos)
      | none => (.broken (stopBehind text pos .expectedValue), none)
where
  /-- Reads a word whose first letter stands at `pos`. -/
  word (pos : Nat) (value : Document) (rest : List UInt8) : Reading :=
    match readWord text (pos + 1) rest with
    | .ok p => (value, some p)
    | .error e => (.broken e, none)

/-- How deep arrays and objects may be nested. -/
def nestingLimit : Nat := 127

/-- Reads a whole text: the value it begins with, and the fault of what stands behind it if
anything but blanks does. -/
def Document.read (text : ByteArray) : Document × Option Stop :=
  match readValue text nestingLimit (skipSpace text 0) with
  | (d, some p) =>
    let q := skipSpace text p
    (d, if q < text.size then some (stopBehind text q .trailingCharacters) else none)
  | (d, none) => (d, none)

/-! ## Documents and values -/

mutual

/-- The value of a document, or the first fault in it. -/
def Document.value : Document → Except Stop Json
  | .null => .ok .null
  | .bool b => .ok (.bool b)
  | .number n => .ok (.number n)
  | .string s => .ok (.string s)
  | .array items stop =>
    match Document.values items [], stop with
    | .error e, _ => .error e
    | .ok _, some e => .error e
    | .ok xs, none => .ok (.array xs)
  | .object fields stop =>
    match Document.fieldValues fields [], stop with
    | .error e, _ => .error e
    | .ok _, some e => .error e
    | .ok fs, none => .ok (.object fs)
  | .broken e => .error e

/-- The values of a list of documents, put behind those in `acc`, which is in reverse. -/
def Document.values : List Document → List Json → Except Stop (List Json)
  | [], acc => .ok acc.reverse
  | d :: ds, acc =>
    match Document.value d with
    | .ok j => Document.values ds (j :: acc)
    | .error e => .error e

/-- The values of a list of fields, put behind those in `acc`, which is in reverse. -/
def Document.fieldValues : List (String × Document) → List (String × Json) →
    Except Stop (List (String × Json))
  | [], acc => .ok acc.reverse
  | (k, d) :: ds, acc =>
    match Document.value d with
    | .ok j => Document.fieldValues ds ((k, j) :: acc)
    | .error e => .error e

end

mutual

/-- A value as a document that does not break off. -/
def toDocument : Json → Document
  | .null => .null
  | .bool b => .bool b
  | .number n => .number n
  | .string s => .string s
  | .array xs => .array (toDocuments xs) none
  | .object fs => .object (toFieldDocuments fs) none

/-- The documents of a list of values. -/
def toDocuments : List Json → List Document
  | [] => []
  | x :: xs => toDocument x :: toDocuments xs

/-- The documents of a list of fields. -/
def toFieldDocuments : List (String × Json) → List (String × Document)
  | [] => []
  | (k, v) :: rest => (k, toDocument v) :: toFieldDocuments rest

end

/-- Reads a text that holds one value and blanks around it; fields stay in the order of the
text, duplicates included. -/
def parse (text : ByteArray) : Except ReadError Json :=
  match Document.read text with
  | (d, trailing) =>
    match d.value, trailing with
    | .error e, _ => .error (e.locate text)
    | .ok _, some e => .error (e.locate text)
    | .ok j, none => .ok j

/-- Reads a text into a tidy value. -/
def parseTidy (text : ByteArray) : Except ReadError Json := (parse text).map tidy

end HookRelay.Json
