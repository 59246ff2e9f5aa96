import EdgeRender.Text.Blank
import EdgeRender.Text.Hex

/-! # Numeric addresses

IPv4 addresses, whose parts may be decimal, octal or hexadecimal, and IPv6 addresses
with one gap at most. The written forms are canonical: four decimal bytes, and eight
hexadecimal pieces with the longest run of zeros left out.
-/
namespace EdgeRender.Url

open EdgeRender.Text

/-! ## IPv4 -/

def numberIn? (base : Nat) (digits : List Char) : Option Nat :=
  digits.foldl
    (fun n c => do
      let n ← n
      let d ← hexValue? c
      if d < base then some (n * base + d) else none)
    (some 0)

/-- A part of an IPv4 address: `0x` begins a hexadecimal number, and a zero an octal
one. -/
def ipv4Number? : List Char → Option Nat
  | [] => none
  | '0' :: 'x' :: digits | '0' :: 'X' :: digits => numberIn? 16 digits
  | '0' :: d :: digits => numberIn? 8 (d :: digits)
  | digits => numberIn? 10 digits

/-- The parts between dots, a dot at the end put aside. -/
def dottedParts (name : List Char) : List (List Char) :=
  let parts := splitAt '.' name
  if parts.getLast? = some [] then parts.dropLast else parts

/-- Does a host of this name have to be an IPv4 address? -/
def endsInNumber (name : List Char) : Bool :=
  match (dottedParts name).getLast? with
  | none => false
  | some last => (!last.isEmpty && last.all Char.isDigit) || (ipv4Number? last).isSome

/-- Put the numbers of an address together. All but the last are bytes, and the last
fills what is left of four bytes. -/
def ipv4OfNumbers? (numbers : List Nat) : Option Nat := do
  let last ← numbers.getLast?
  let bytes := numbers.dropLast
  if 3 < bytes.length then none
  else if Nat.pow 256 (4 - bytes.length) ≤ last then none
  else if bytes.any (255 < ·) then none
  else
    let high := bytes.foldl (fun n b => n * 256 + b) 0
    some (high * Nat.pow 256 (4 - bytes.length) + last)

def ipv4? (name : List Char) : Option Nat := do
  ipv4OfNumbers? (← (dottedParts name).mapM ipv4Number?)

def ipv4Text (n : Nat) : List Char :=
  joinWith ['.']
    ([n / 16777216 % 256, n / 65536 % 256, n / 256 % 256, n % 256].map (Nat.toDigits 10))

/-! ## IPv6 -/

/-- A decimal byte without a zero in front. -/
def decimalByte? (digits : List Char) : Option Nat :=
  if digits.isEmpty || (digits.head? = some '0' && 1 < digits.length) then none
  else
    match numberIn? 10 digits with
    | some n => if n ≤ 255 then some n else none
    | none => none

/-- The two pieces that an IPv4 address at the end of an IPv6 address stands for. -/
def embeddedPieces? (s : List Char) : Option (List Nat) := do
  match ← (splitAt '.' s).mapM decimalByte? with
  | [a, b, c, d] => some [a * 256 + b, c * 256 + d]
  | _ => none

/-- Read pieces; `gap` is the number of pieces before a double colon. Every round
consumes a character, so the length of the text bounds the rounds. -/
def ipv6From : Nat → List Nat → Option Nat → List Char → Option (List Nat × Option Nat)
  | 0, pieces, gap, _ => some (pieces, gap)
  | bound + 1, pieces, gap, s =>
    let count := pieces.length + (if gap.isSome then 1 else 0)
    if s.isEmpty then some (pieces, gap)
    else if count = 8 then none
    else if s.head? = some ':' then
      if gap.isSome then none else ipv6From bound pieces (some pieces.length) (s.drop 1)
    else
      let digits := (s.take 4).takeWhile fun c => (hexValue? c).isSome
      let piece := (numberIn? 16 digits).getD 0
      match s.drop digits.length with
      | [] => some (pieces ++ [piece], gap)
      | '.' :: _ =>
        if digits.isEmpty || 6 < count then none
        else do
          let embedded ← embeddedPieces? s
          some (pieces ++ embedded, gap)
      | ':' :: rest =>
        if rest.isEmpty then none else ipv6From bound (pieces ++ [piece]) gap rest
      | _ => none

/-- The eight pieces of an IPv6 address, zeros in the place of a gap. -/
def ipv6? (s : List Char) : Option (List Nat) := do
  let (pieces, gap) ←
    match s with
    | ':' :: ':' :: rest => ipv6From (rest.length + 1) [] (some 0) rest
    | ':' :: _ | [] => none
    | s => ipv6From (s.length + 1) [] none s
  match gap with
  | none => if pieces.length = 8 then some pieces else none
  | some n => some (pieces.take n ++ List.replicate (8 - pieces.length) 0 ++ pieces.drop n)

def zerosAhead (pieces : List Nat) : Nat :=
  (pieces.takeWhile (· = 0)).length

/-- Where the longest run of zeros begins, and its length; the first of equal ones. -/
def longestZeros : Nat → List Nat → Nat × Nat
  | index, [] => (index, 0)
  | index, piece :: pieces =>
    let here := zerosAhead (piece :: pieces)
    let (start, length) := longestZeros (index + 1) pieces
    if length ≤ here then (index, here) else (start, length)

def piecesText (pieces : List Nat) : List Char :=
  joinWith [':'] (pieces.map hexDigits)

/-- The pieces in hexadecimal. A run of two zeros or more is left out. -/
def ipv6Text (pieces : List Nat) : List Char :=
  let (start, length) := longestZeros 0 pieces
  if length < 2 then piecesText pieces
  else piecesText (pieces.take start) ++ [':', ':'] ++ piecesText (pieces.drop (start + length))

end EdgeRender.Url
