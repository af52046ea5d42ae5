import HookRelay.Idna.Label
import HookRelay.Idna.Punycode

/-!
# Domain names in ASCII

A domain name is mapped, composed and split into labels. A label that is already encoded is
decoded and must be what its own encoding would be made of. Each label must be well formed; one
with characters beyond ASCII is written in Punycode behind `xn--`.

## Main definitions

* `isForbidden` : ASCII characters that no domain name may hold
* `toAscii?` : the ASCII form of a domain name
-/

namespace HookRelay.Idna

/-- ASCII characters that no domain name in an address may hold. -/
def isForbidden (c : Char) : Bool :=
  c.toNat ≤ 0x20 || c.toNat = 0x7F || "%#/:<>?@[\\]^|".toList.contains c

/-- What an encoded label begins with. -/
def encodedPrefix : List Char := ['x', 'n', '-', '-']

/-- The label that a mapped label stands for: an encoded one is decoded. -/
def decodeLabel (label : List Char) : Option (List Char) :=
  if encodedPrefix.isPrefixOf label then do
    let decoded ← Punycode.decode (label.drop 4)
    if decoded.all (fun c => c.toNat < 128) || !isStable decoded then none else some decoded
  else some label

/-- Whether a label is well formed, apart from its direction. -/
def labelOk (label : List Char) : Bool :=
  !label.any isForbidden && !beginsWithMark label && joinersOk [] label

/-- The ASCII form of a label. -/
def encodeLabel (label : List Char) : List Char :=
  if label.all (fun c => c.toNat < 128) then label
  else encodedPrefix ++ Punycode.encode label

/-- The ASCII form of a domain name. -/
def toAscii? (name : List Char) : Option (List Char) := do
  let mapped ← mapChars name
  let labels ← ((normalForm mapped).splitOn '.').mapM decodeLabel
  if !labels.all labelOk then none
  else if labels.any isRightToLeft && !labels.all directionOk then none
  else some (['.'].intercalate (labels.map encodeLabel))

end HookRelay.Idna
