import HookRelay.Idna.Domain
import HookRelay.Text.Percent

/-!
# Hosts of addresses

The host of an address is a domain name or the number of a machine. Numbers have many spellings
(`0x7f.1`, `127.0.0.1`); all are brought to one.

## Main definitions

* `Host` : a domain name, an IPv4 number or an IPv6 number
* `Host.read`, `Host.readPlain` : the hosts of addresses whose schemes are known, and of others
* `Host.render` : the written form
-/

namespace HookRelay.Url

/-- Why a text is no address. -/
inductive Fault where
  | emptyHost
  | invalidDomain
  | invalidPort
  | invalidIpv4
  | invalidIpv6
  | invalidDomainCharacter
  | relativeWithoutBase
  | relativeWithOpaqueBase
  deriving DecidableEq, Repr

/-- The wording of a fault. -/
def Fault.message : Fault → String
  | .emptyHost => "empty host"
  | .invalidDomain => "invalid international domain name"
  | .invalidPort => "invalid port number"
  | .invalidIpv4 => "invalid IPv4 address"
  | .invalidIpv6 => "invalid IPv6 address"
  | .invalidDomainCharacter => "invalid domain character"
  | .relativeWithoutBase => "relative URL without a base"
  | .relativeWithOpaqueBase => "relative URL with a cannot-be-a-base base"

/-- The host of an address. -/
inductive Host where
  | domain (name : String)
  | ipv4 (number : Nat)
  /-- Eight numbers of 16 bits. -/
  | ipv6 (pieces : List Nat)
  deriving DecidableEq, Repr, Inhabited

/-! ## IPv4 -/

/-- A part of an IPv4 number: decimal, octal behind `0`, hexadecimal behind `0x`. The inner
option is empty if the number does not fit into 32 bits. -/
def ipv4Part (cs : List Char) : Option (Option Nat) :=
  let radix : Nat × List Char :=
    match cs with
    | '0' :: 'x' :: rest => (16, rest)
    | '0' :: 'X' :: rest => (16, rest)
    | '0' :: c :: rest => (8, c :: rest)
    | cs => (10, cs)
  let isDigit (c : Char) : Bool :=
    if radix.1 = 16 then c.isDigit || ('a' ≤ c && c ≤ 'f') || ('A' ≤ c && c ≤ 'F')
    else c.isDigit && c.toNat - 48 < radix.1
  if cs.isEmpty || !radix.2.all isDigit then none
  else
    let n := radix.2.foldl (fun n c => n * radix.1 + digit c) 0
    some (if n < Nat.pow 2 32 then some n else none)
where
  /-- The value of a digit. -/
  digit (c : Char) : Nat :=
    let n := c.toNat
    if n ≤ 57 then n - 48 else if n ≤ 70 then n - 55 else n - 87

/-- Whether the last part of a name makes it an IPv4 number. -/
def endsInNumber (parts : List (List Char)) : Bool :=
  let last? :=
    match parts.reverse with
    | [] :: [] => none
    | [] :: p :: _ => some p
    | p :: _ => some p
    | [] => none
  match last? with
  | some p => (!p.isEmpty && p.all Char.isDigit) || (ipv4Part p).isSome
  | none => false

/-- The number that dotted parts denote: the last part fills the bytes that are left. -/
def ipv4Number (parts : List (List Char)) : Option Nat := do
  let parts := if parts.getLast? = some [] then parts.dropLast else parts
  if parts.length > 4 then none
  let numbers ← parts.mapM fun p => (ipv4Part p).join
  let last ← numbers.getLast?
  let front := numbers.dropLast
  if last ≥ Nat.pow 256 (4 - front.length) || front.any (· > 255) then none
  else some ((front.foldl (fun n b => n * 256 + b) 0) * Nat.pow 256 (4 - front.length) + last)

/-- The written form of an IPv4 number. -/
def ipv4Text (n : Nat) : String :=
  s!"{n / Nat.pow 2 24}.{n / Nat.pow 2 16 % 256}.{n / Nat.pow 2 8 % 256}.{n % 256}"

/-! ## IPv6 -/

/-- Up to `most` hexadecimal digits: their value and the rest. -/
def hexDigits (most : Nat) (cs : List Char) : Nat × List Char :=
  let ds := (cs.take most).takeWhile fun c =>
    c.isDigit || ('a' ≤ c && c ≤ 'f') || ('A' ≤ c && c ≤ 'F')
  (Text.hexNumber ds, cs.drop ds.length)

/-- A decimal number below 256 without a needless zero. -/
def decimalByte (cs : List Char) : Option Nat :=
  match cs with
  | [] => none
  | '0' :: _ :: _ => none
  | cs =>
    if cs.all Char.isDigit && cs.length ≤ 3 then
      let n := cs.foldl (fun n c => n * 10 + (c.toNat - 48)) 0
      if n < 256 then some n else none
    else none

/-- The two pieces that a dotted IPv4 number at the end of an IPv6 number stands for. -/
def ipv4Tail (cs : List Char) : Option (List Nat) := do
  let bytes ← (cs.splitOn '.').mapM decimalByte
  match bytes with
  | [a, b, c, d] => some [a * 256 + b, c * 256 + d]
  | _ => none

/-- Reads the pieces of an IPv6 number. `pieces` are those already read, in reverse; `gap` says
how many stand before the double colon. Every step adds a piece. -/
def ipv6Pieces : (fuel : Nat) → List Char → List Nat → Option Nat → Option (List Nat × Option Nat)
  | _, [], pieces, gap => some (pieces.reverse, gap)
  | 0, _ :: _, _, _ => none
  | fuel + 1, c :: cs, pieces, gap =>
    if c = ':' then
      if gap.isSome then none
      else ipv6Pieces fuel cs (0 :: pieces) (some (pieces.length + 1))
    else
      let (value, rest) := hexDigits 4 (c :: cs)
      match rest with
      | [] => some ((value :: pieces).reverse, gap)
      | ':' :: [] => none
      | ':' :: rest => ipv6Pieces fuel rest (value :: pieces) gap
      | '.' :: _ =>
        if rest.length = (c :: cs).length || pieces.length > 6 then none
        else (ipv4Tail (c :: cs)).map fun two => (pieces.reverse ++ two, gap)
      | _ => none

/-- The number that a text between brackets denotes. -/
def ipv6Number (cs : List Char) : Option (List Nat) := do
  let (start, pieces, gap) ←
    match cs with
    | ':' :: ':' :: rest => some (rest, [0], some 1)
    | ':' :: _ => none
    | [_] => none
    | [] => none
    | cs => some (cs, [], none)
  let (read, gap) ← ipv6Pieces (8 - pieces.length) start pieces gap
  match gap with
  | some g => if read.length ≤ 8 then
      some (read.take g ++ List.replicate (8 - read.length) 0 ++ read.drop g) else none
  | none => if read.length = 8 then some read else none

/-- The length of the run of zeros at the head of a list. -/
def zeroRun (l : List Nat) : Nat := (l.takeWhile (· == 0)).length

/-- Start and length of the first longest run of at least two zeros, from position `i` on. -/
def longestRun : (i : Nat) → List Nat → Nat × Nat → Nat × Nat
  | _, [], best => best
  | i, x :: xs, best =>
    let n := zeroRun (x :: xs)
    longestRun (i + 1) xs (if n ≥ 2 && n > best.2 then (i, n) else best)

/-- A piece of an IPv6 number. -/
def hexPiece (n : Nat) : String := String.ofList (Nat.toDigits 16 n)

/-- The written form of an IPv6 number. -/
def ipv6Text (pieces : List Nat) : String :=
  let (at_, n) := longestRun 0 pieces (0, 0)
  let join (l : List Nat) := ":".intercalate (l.map hexPiece)
  if n = 0 then join pieces
  else join (pieces.take at_) ++ "::" ++ join (pieces.drop (at_ + n))

/-! ## Hosts -/

namespace Host

/-- The host between brackets. -/
def readBracketed (cs : List Char) : Except Fault Host :=
  match cs.getLast?, ipv6Number cs.dropLast with
  | some ']', some pieces => .ok (.ipv6 pieces)
  | _, _ => .error .invalidIpv6

/-- The host of an address whose scheme is one of the known ones. -/
def read (cs : List Char) : Except Fault Host :=
  match cs with
  | '[' :: rest => readBracketed rest
  | cs =>
    match (String.fromUTF8? (Text.percentDecode (String.ofList cs))).bind
        (fun s => Idna.toAscii? s.toList) with
    | none => .error .invalidDomain
    | some [] => .error .emptyHost
    | some ascii =>
      let parts := ascii.splitOn '.'
      if endsInNumber parts then
        match ipv4Number parts with
        | some n => .ok (.ipv4 n)
        | none => .error .invalidIpv4
      else .ok (.domain (String.ofList ascii))

/-- Characters that the host of no address may hold. -/
def isForbiddenPlain (c : Char) : Bool :=
  "\x00\t\n\r #/:<>?@[\\]^|".toList.contains c

/-- Control characters. -/
def isControl (c : Char) : Bool := c.toNat < 0x20 || c.toNat = 0x7F

/-- The host of an address of any other scheme: a text that is not looked into. -/
def readPlain (cs : List Char) : Except Fault Host :=
  match cs with
  | '[' :: rest => readBracketed rest
  | cs =>
    if cs.any isForbiddenPlain then .error .invalidDomainCharacter
    else .ok (.domain (String.ofList (Text.percentEncode isControl cs)))

/-- The written form of a host. -/
def render : Host → String
  | .domain name => name
  | .ipv4 n => ipv4Text n
  | .ipv6 pieces => "[" ++ ipv6Text pieces ++ "]"

end Host

end HookRelay.Url
