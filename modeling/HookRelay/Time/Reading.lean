import HookRelay.Text.Blank
import HookRelay.Time.Instant

/-!
# Reading instants

A time in a cluster object is a date and a time of day with an offset from UTC. Reading is
lenient in what separates the parts: blanks may stand before the separators, the date may be
followed by `T`, `t` or a blank, seconds may have a fraction, and the offset may be `Z`, `UTC`
or a signed hour and minute.

## Main definitions

* `Fault` : why a text is no time
* `Instant.read` : the instant that a text names
-/

namespace HookRelay.Time

/-- Why a text is no time. -/
inductive Fault where
  | tooShort
  | invalid
  | outOfRange
  | impossible
  | tooLong
  deriving DecidableEq, Repr

/-- The wording of a fault. -/
def Fault.message : Fault → String
  | .tooShort => "premature end of input"
  | .invalid => "input contains invalid characters"
  | .outOfRange => "input is out of range"
  | .impossible => "no possible date and time matching input"
  | .tooLong => "trailing input"

/-- What reading of a part gives: its value and the rest of the text. -/
abbrev Part (α : Type) := Except Fault (α × List Char)

/-- Drops the blanks in front. -/
def skipBlanks (cs : List Char) : List Char := cs.dropWhile Text.isBlank

/-- The number that decimal digits denote. -/
def decimal (cs : List Char) : Nat := cs.foldl (fun n c => n * 10 + (c.toNat - 48)) 0

/-- Between `least` and `most` digits. -/
def digits (least most : Nat) (cs : List Char) : Part Nat :=
  let ds := (cs.take most).takeWhile Char.isDigit
  if ds.length < least then
    .error (if cs.length < least && ds.length = cs.length then .tooShort else .invalid)
  else .ok (decimal ds, cs.drop ds.length)

/-- A character, with blanks in front of it allowed. -/
def literal (c : Char) (cs : List Char) : Except Fault (List Char) :=
  match skipBlanks cs with
  | [] => .error .tooShort
  | d :: rest => if d = c then .ok rest else .error .invalid

/-- A year: four digits, or a sign and any number of digits. -/
def year (cs : List Char) : Part Int :=
  match skipBlanks cs with
  | '+' :: rest => (digits 1 18 rest).map fun r => ((r.1 : Int), r.2)
  | '-' :: rest => (digits 1 18 rest).map fun r => (-(r.1 : Int), r.2)
  | rest => (digits 1 4 rest).map fun r => ((r.1 : Int), r.2)

/-- A two-digit part, with blanks in front of it allowed. -/
def twoDigits (cs : List Char) : Part Nat := digits 1 2 (skipBlanks cs)

/-- A fraction of a second, if there is one; it must have a digit. -/
def fraction (cs : List Char) : Except Fault (List Char) :=
  match cs with
  | '.' :: rest =>
    match rest.dropWhile Char.isDigit with
    | after =>
      if after.length = rest.length then .error (if rest.isEmpty then .tooShort else .invalid)
      else .ok after
  | _ => .ok cs

/-- An offset from UTC in seconds. -/
def offset (cs : List Char) : Except Fault (Int × List Char) :=
  match cs with
  | [] => .error .tooShort
  | 'Z' :: rest | 'z' :: rest => .ok (0, rest)
  | c :: rest =>
    if (c :: rest.take 2).map Char.toUpper = ['U', 'T', 'C'] then .ok (0, rest.drop 2)
    else if c = '+' || c = '-' || c = '−' then do
      let (hours, rest) ← digits 2 2 rest
      let rest := rest.dropWhile (fun c => c = ':' || Text.isBlank c)
      let (minutes, rest) ← digits 2 2 rest
      if minutes > 59 then .error .outOfRange
      else
        let total : Int := hours * 3600 + minutes * 60
        .ok (if c = '+' then total else -total, rest)
    else .error .invalid

/-- The instant that a text names. -/
def Instant.read (text : String) : Except Fault Instant := do
  let (year, rest) ← year text.toList
  let rest ← literal '-' rest
  let (month, rest) ← twoDigits rest
  let rest ← literal '-' rest
  let (day, rest) ← twoDigits rest
  let rest ←
    match rest with
    | 'T' :: rest | 't' :: rest => .ok rest
    | [] => .error Fault.tooShort
    | c :: rest => if Text.isBlank c then .ok rest else .error Fault.invalid
  let (hour, rest) ← twoDigits rest
  let rest ← literal ':' rest
  let (minute, rest) ← twoDigits rest
  let rest ← literal ':' rest
  let (second, rest) ← twoDigits rest
  let rest ← fraction rest
  let (shift, rest) ← offset (skipBlanks rest)
  if !(skipBlanks rest).isEmpty then .error .tooLong
  else if month = 0 || month > 12 || day = 0 || day > 31 || hour > 23 || minute > 59
      || second > 60 || shift.natAbs ≥ 86400 || year.natAbs > 262142 then .error .outOfRange
  else if day > daysInMonth year month then .error .outOfRange
  else
    let date : Date := ⟨year, month, day⟩
    .ok ⟨date.toDays * 86400 + hour * 3600 + minute * 60 + min second 59 - shift⟩

end HookRelay.Time
