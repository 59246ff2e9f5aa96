import EdgeRender.Text.Hex
import EdgeRender.Text.Utf8

/-! # Percent encoding

A byte that may not stand for itself is written as a percent sign and two hexadecimal
digits. Which ASCII characters are written so depends on the part of a URL; all others
are, byte by byte of their UTF-8 form.
-/
namespace EdgeRender.Url

open EdgeRender.Text

def isControl (c : Char) : Bool := c.val < 0x20 || c.val == 0x7F

/-- Written with percent signs in a path. -/
def escapedInPath (c : Char) : Bool := isControl c || c ∈ " \"#<>?`\x7b\x7d".toList

/-- Written with percent signs in a user name or password. -/
def escapedInUserInfo (c : Char) : Bool := escapedInPath c || c ∈ "/:;=@[\\]^|".toList

/-- Written with percent signs in a query. -/
def escapedInQuery (c : Char) : Bool := isControl c || c ∈ " \"#<>".toList

/-- Written with percent signs in the query of a special scheme. -/
def escapedInSpecialQuery (c : Char) : Bool := escapedInQuery c || c == '\''

def encodeByte (b : UInt8) : List Char :=
  ['%', hexDigitUpper (b.toNat / 16), hexDigitUpper (b.toNat % 16)]

/-- Write the characters for which `escaped` holds, and all beyond ASCII, with percent
signs. -/
def percentEncode (escaped : Char → Bool) (s : List Char) : List Char :=
  s.flatMap fun c =>
    if 0x80 ≤ c.val || escaped c then (Utf8.encode [c]).flatMap encodeByte else [c]

/-- The bytes that a text stands for. A percent sign without two digits behind it
stands for itself. -/
def percentDecodeFrom : List UInt8 → List UInt8
  | [] => []
  | b :: rest =>
    match rest with
    | high :: low :: rest' =>
      match hexValue? (.ofNat high.toNat), hexValue? (.ofNat low.toNat) with
      | some h, some l =>
        if b = '%'.toUInt8 then .ofNat (h * 16 + l) :: percentDecodeFrom rest'
        else b :: percentDecodeFrom (high :: low :: rest')
      | _, _ => b :: percentDecodeFrom (high :: low :: rest')
    | rest => b :: percentDecodeFrom rest

def percentDecode (s : List Char) : List UInt8 :=
  percentDecodeFrom (Utf8.encode s)

end EdgeRender.Url
