import EdgeRender.Idna.Label
import EdgeRender.Idna.Punycode

/-! # International domain names

The ASCII form of a domain name, as a URL's host needs it. The mapping is applied to
the whole name, encoded labels are decoded and checked, and labels with characters
beyond ASCII are encoded. Neither hyphens nor lengths are restricted.
-/
namespace EdgeRender.Idna

open EdgeRender.Text EdgeRender.Unicode

/-- ASCII characters that no host name may hold. -/
def isForbidden (c : Char) : Bool :=
  c.val ≤ 0x20 || c.val == 0x7F || c ∈ "#%/:<>?@[\\]^|".toList

def isAscii (c : Char) : Bool := c.val < 0x80

/-- The mark in front of an encoded label. -/
def encodedMark : List Char := ['x', 'n', '-', '-']

/-- The longest label, in characters, that is encoded. -/
def encodeLimit : Nat := 1000

/-- The longest encoded label that is decoded. -/
def decodeLimit : Nat := 2000

/-- Decode a label that carries the mark. An encoding of ASCII alone is refused, and
so is one of a text that the mapping would have changed. -/
def decodeLabel (label : List Char) : Option (List Char) :=
  if encodedMark.isPrefixOf label then do
    let digits := label.drop 4
    if decodeLimit < digits.length then none
    else
      let text ← Punycode.decode digits
      if text.all isAscii || !isMapped text then none else some text
  else some label

def isValidLabel (bidirectional : Bool) (label : List Char) : Bool :=
  !label.any isForbidden &&
  (label.all isAscii || (startsWell label && joinersFit [] label)) &&
  (!bidirectional || directionsFit label)

def encodeLabel (label : List Char) : Option (List Char) :=
  if label.all isAscii then some label
  else if encodeLimit < label.length then none
  else some (encodedMark ++ Punycode.encode label)

/-- A name of ASCII labels, none of them encoded, only has its capitals lowered. -/
def isPlain (name : List Char) : Bool :=
  name.all isAscii &&
    (splitAt '.' (name.map Char.toLower)).all (fun label => !encodedMark.isPrefixOf label)

def toAscii? (name : List Char) : Option (List Char) :=
  if isPlain name then
    let name := name.map Char.toLower
    if name.any isForbidden then none else some name
  else do
    let mapped ← name.mapM mapChar
    let labels ← (splitAt '.' (normalize mapped.flatten)).mapM decodeLabel
    let bidirectional := labels.any isBidirectional
    if labels.all (isValidLabel bidirectional) then
      (joinWith ['.']) <$> labels.mapM encodeLabel
    else none

end EdgeRender.Idna
