import EdgeRender.Json.Fault
import EdgeRender.Text.Utf8

/-! # Reading JSON

A reader consumes bytes from a cursor. It stops either with a refusal, whose place is
known, or by raising a fault, whose place is settled where the enclosing bracket ends.
Loops carry the number of bytes left as a bound; each round consumes one at least.
-/
namespace EdgeRender.Json

open EdgeRender.Text EdgeRender.Decimal

/-- The bytes not yet read, and the place before them. -/
structure Cursor where
  place : Place
  rest : List UInt8

def Cursor.start (bytes : List UInt8) : Cursor := ⟨⟨1, 0⟩, bytes⟩

def Cursor.step (c : Cursor) : Cursor :=
  match c.rest with
  | [] => c
  | b :: rest => ⟨c.place.after b, rest⟩

def Cursor.skip (c : Cursor) : Nat → Cursor
  | 0 => c
  | n + 1 => c.step.skip n

inductive Stop where
  | refused (r : Refusal)
  | raised (fault : Fault) (cursor : Cursor)

abbrev Reader := StateT Cursor (Except Stop)

/-- Refuse with the place behind all bytes read. -/
def refuse (fault : Fault) : Reader α := fun c =>
  .error (.refused ⟨fault, c.place⟩)

/-- Refuse with the place behind the next byte, the one at fault. -/
def refuseNext (fault : Fault) : Reader α := fun c =>
  .error (.refused ⟨fault, c.step.place⟩)

/-- Refuse with the place that many bytes before the end of the bytes read. -/
def refuseBack (fault : Fault) (bytes : Nat) : Reader α := fun c =>
  .error (.refused ⟨fault, c.place.back bytes⟩)

/-- Stop with a place to be settled later. -/
def raise (fault : Fault) : Reader α := fun c =>
  .error (.raised fault c)

def peek? : Reader (Option UInt8) := fun c => .ok (c.rest.head?, c)

def skipByte : Reader Unit := fun c => .ok ((), c.step)

/-- The next byte, consumed. -/
def next? : Reader (Option UInt8) := fun c => .ok (c.rest.head?, c.step)

/-- The next `n` bytes, consumed; fewer if the text ends before. -/
def takeBytes (n : Nat) : Reader (List UInt8) := fun c => .ok (c.rest.take n, c.skip n)

def bytesLeft : Reader Nat := fun c => .ok (c.rest.length, c)

def isBlankByte (b : UInt8) : Bool := b == 0x20 || b == 0x0A || b == 0x09 || b == 0x0D

def isDigitByte (b : UInt8) : Bool := 0x30 ≤ b && b ≤ 0x39

def skipWhileFrom (p : UInt8 → Bool) (place : Place) : List UInt8 → Cursor
  | [] => ⟨place, []⟩
  | b :: rest => if p b then skipWhileFrom p (place.after b) rest else ⟨place, b :: rest⟩

def skipBlanks : Reader Unit := fun c => .ok ((), skipWhileFrom isBlankByte c.place c.rest)

/-- The next byte that is not blank, not consumed. -/
def peekToken? : Reader (Option UInt8) := do
  skipBlanks
  peek?

/-- The first byte of a value. -/
def peekValue : Reader UInt8 := do
  match ← peekToken? with
  | some b => pure b
  | none => refuseNext .endOfValue

def word : List UInt8 → Reader Unit
  | [] => pure ()
  | expected :: rest => do
    match ← next? with
    | none => refuse .endOfValue
    | some b => if b = expected then word rest else refuse .expectedWord

def nullWord : Reader Unit := word (Utf8.encode "null".toList)
def trueWord : Reader Unit := word (Utf8.encode "true".toList)
def falseWord : Reader Unit := word (Utf8.encode "false".toList)

/-! ## Strings -/

def hexNumber? (digits : List UInt8) : Option Nat :=
  digits.foldl
    (fun n b => do
      let n ← n
      let d ← hexValue? (Char.ofNat b.toNat)
      pure (n * 16 + d))
    (some 0)

/-- Four hexadecimal digits. Fewer bytes than four are all consumed. -/
def hexEscape : Reader Nat := do
  let digits ← takeBytes 4
  if digits.length < 4 then refuse .endOfString
  else
    match hexNumber? digits with
    | some n => pure n
    | none => refuse .invalidEscape

/-- The character of a `\u` escape; a high surrogate needs a low one behind it. -/
def unicodeEscape : Reader Char := do
  let high ← hexEscape
  if 0xDC00 ≤ high ∧ high ≤ 0xDFFF then refuse .loneSurrogate
  else if high < 0xD800 ∨ 0xDBFF < high then pure (.ofNat high)
  else
    match ← next? with
    | none => refuse .endOfString
    | some b =>
      if b ≠ '\\'.toUInt8 then refuse .unexpectedEndOfHexEscape
      else
        match ← next? with
        | none => refuse .endOfString
        | some b =>
          if b ≠ 'u'.toUInt8 then refuse .unexpectedEndOfHexEscape
          else
            let low ← hexEscape
            if low < 0xDC00 ∨ 0xDFFF < low then refuse .loneSurrogate
            else pure (.ofNat (0x10000 + (high - 0xD800) * 0x400 + (low - 0xDC00)))

/-- The letters of the short escapes, with the characters they stand for. -/
def shortEscapes : List (Char × Char) :=
  [('"', '"'), ('\\', '\\'), ('/', '/'), ('b', '\x08'), ('f', '\x0c'), ('n', '\n'),
   ('r', '\r'), ('t', '\t')]

/-- The character of an escape, the backslash being consumed. -/
def escape : Reader Char := do
  match ← next? with
  | none => refuse .endOfString
  | some b =>
    if b = 'u'.toUInt8 then unicodeEscape
    else
      match shortEscapes.lookup (Char.ofNat b.toNat) with
      | some c => pure c
      | none => refuse .invalidEscape

/-- The bytes of a string up to its closing quote, which stays; `read` holds those
read so far, the last one first. -/
def stringBytes : Nat → List UInt8 → Reader (List UInt8)
  | 0, _ => refuse .endOfString
  | bound + 1, read => do
    match ← peek? with
    | none => refuse .endOfString
    | some b =>
      if b = '"'.toUInt8 then pure read.reverse
      else
        skipByte
        if b = '\\'.toUInt8 then
          let c ← escape
          stringBytes bound ((String.utf8EncodeChar c).reverse ++ read)
        else if b < 0x20 then refuse .controlCharacter
        else stringBytes bound (b :: read)

/-- A string behind its opening quote. Where its bytes are not well formed, the place is
as far before the end of the string as the bytes from the bad one on take, escapes
counting as the characters they stand for. -/
def stringBody : Reader String := do
  let bytes ← stringBytes ((← bytesLeft) + 1) []
  skipByte
  match Utf8.decode bytes with
  | .error fault => refuseBack .invalidCodePoint (bytes.length - fault.validUpTo)
  | .ok s => pure (.ofList s)

/-- Pass over an escape without minding surrogates. -/
def skipEscape : Reader Unit := do
  match ← next? with
  | none => refuse .endOfString
  | some b =>
    if b = 'u'.toUInt8 then discard hexEscape
    else if (shortEscapes.lookup (Char.ofNat b.toNat)).isSome then pure ()
    else refuse .invalidEscape

def skipString : Nat → Reader Unit
  | 0 => refuse .endOfString
  | bound + 1 => do
    match ← peek? with
    | none => refuse .endOfString
    | some b =>
      if b = '"'.toUInt8 then skipByte
      else if b = '\\'.toUInt8 then
        skipByte
        skipEscape
        skipString bound
      else if b < 0x20 then refuse .controlCharacter
      else
        skipByte
        skipString bound

/-! ## Numbers -/

def digitRun : Reader (List Nat) := fun c =>
  .ok ((c.rest.takeWhile isDigitByte).map (fun b => b.toNat - 48),
    skipWhileFrom isDigitByte c.place c.rest)

/-- The greatest whole number of 64 bits. -/
def maxNatural : Nat := 18446744073709551615

/-- Append digits to a significand as long as it fits into 64 bits; returns it and
the digits left over, beginning with the first that does not fit. -/
def absorb (significand : Nat) : List Nat → Nat × List Nat
  | [] => (significand, [])
  | d :: ds =>
    if maxNatural < significand * 10 + d then (significand, d :: ds)
    else absorb (significand * 10 + d) ds

/-- The number of a significand and an exponent; too great a one is refused. -/
def scaled (negative : Bool) (significand : Nat) (exponent : Int) : Reader Number := do
  match Binary64.ofDecimal? negative significand exponent with
  | some x => pure (.float x)
  | none => refuse .numberOutOfRange

/-- The greatest exponent that is computed with. -/
def maxExponent : Nat := 2147483647

/-- The digits of an exponent. Once it is too great it counts as infinite, and the
rest of its digits is only passed over. -/
def exponentDigits (negative tiny : Bool) (significand : Nat) (start : Int) :
    Nat → Nat → Reader Number
  | 0, e => scaled negative significand (if tiny then start - e else start + e)
  | bound + 1, e => do
    match ← peek? with
    | none => scaled negative significand (if tiny then start - e else start + e)
    | some b =>
      if isDigitByte b then
        skipByte
        let e := e * 10 + (b.toNat - 48)
        if maxExponent < e then
          if significand ≠ 0 ∧ !tiny then refuse .numberOutOfRange
          else
            discard digitRun
            pure (.float ⟨negative, 0⟩)
        else exponentDigits negative tiny significand start bound e
      else scaled negative significand (if tiny then start - e else start + e)

def exponentPart (negative : Bool) (significand : Nat) (start : Int) : Reader Number := do
  let sign ← peek?
  let tiny := sign = some '-'.toUInt8
  if tiny || sign = some '+'.toUInt8 then skipByte
  match ← next? with
  | none => refuse .endOfValue
  | some b =>
    if isDigitByte b then
      exponentDigits negative tiny significand start (← bytesLeft) (b.toNat - 48)
    else refuse .invalidNumber

def isExponentMark (b : Option UInt8) : Bool :=
  b == some 'e'.toUInt8 || b == some 'E'.toUInt8

def fractionPart (negative : Bool) (significand : Nat) (start : Int) : Reader Number := do
  let digits ← digitRun
  if digits.isEmpty then
    match ← peek? with
    | some _ => refuseNext .invalidNumber
    | none => refuseNext .endOfValue
  else
    let (significand, spare) := absorb significand digits
    let exponent := start - ((digits.length - spare.length : Nat) : Int)
    if isExponentMark (← peek?) then
      skipByte
      exponentPart negative significand exponent
    else scaled negative significand exponent

/-- Two to the power 63, the greatest magnitude of a negative whole number. -/
def maxMagnitude : Nat := 9223372036854775808

/-- A whole number without fraction and exponent. Zero with a sign, and what does not
fit into 64 bits, is a binary64 number. -/
def wholeNumber (negative : Bool) (significand : Nat) (spare : List Nat) : Reader Number :=
  if !spare.isEmpty then scaled negative significand spare.length
  else if !negative then pure (.integer significand)
  else if 0 < significand ∧ significand ≤ maxMagnitude then pure (.integer (-significand))
  else scaled true significand 0

def unsignedNumber (negative : Bool) : Reader Number := do
  match ← peek? with
  | none => refuse .endOfValue
  | some b =>
    if !isDigitByte b then
      skipByte
      refuse .invalidNumber
    else
      let digits ← if b = '0'.toUInt8 then do skipByte; pure [0] else digitRun
      if b = '0'.toUInt8 ∧ (← peek?).any isDigitByte then refuseNext .invalidNumber
      else
        let (significand, spare) := absorb 0 digits
        let mark ← peek?
        if mark = some '.'.toUInt8 then
          skipByte
          fractionPart negative significand spare.length
        else if isExponentMark mark then
          skipByte
          exponentPart negative significand spare.length
        else wholeNumber negative significand spare

/-- Does a value beginning with this byte have to be a number? -/
def startsNumber (b : UInt8) : Bool := b == '-'.toUInt8 || isDigitByte b

def number : Reader Number := do
  if (← peek?) = some '-'.toUInt8 then
    skipByte
    unsignedNumber true
  else unsignedNumber false

/-- Pass over a number: only its form counts. -/
def skipNumber : Reader Unit := do
  if (← peek?) = some '-'.toUInt8 then skipByte
  match ← next? with
  | none => refuse .invalidNumber
  | some b =>
    if !isDigitByte b then refuse .invalidNumber
    else
      if b = '0'.toUInt8 then
        if (← peek?).any isDigitByte then refuseNext .invalidNumber
      else discard digitRun
      if (← peek?) = some '.'.toUInt8 then
        skipByte
        if (← digitRun).isEmpty then refuseNext .invalidNumber
      if isExponentMark (← peek?) then
        skipByte
        let sign ← peek?
        if sign = some '-'.toUInt8 || sign = some '+'.toUInt8 then skipByte
        match ← next? with
        | none => refuse .invalidNumber
        | some b => if isDigitByte b then discard digitRun else refuse .invalidNumber

/-! ## Arrays and objects -/

def openBracket : UInt8 := '['.toUInt8
def closeBracket : UInt8 := ']'.toUInt8
def openBrace : UInt8 := '\x7b'.toUInt8
def closeBrace : UInt8 := '\x7d'.toUInt8
def comma : UInt8 := ','.toUInt8
def quoteMark : UInt8 := '"'.toUInt8

def colon : Reader Unit := do
  match ← peekToken? with
  | none => refuseNext .endOfObject
  | some b => if b = ':'.toUInt8 then skipByte else refuseNext .expectedColon

/-- Is there another item? The comma in front of it is consumed. -/
def nextItem (first : Bool) : Reader Bool := do
  match ← peekToken? with
  | none => refuseNext .endOfList
  | some b =>
    if b = closeBracket then pure false
    else if first then pure true
    else if b = comma then
      skipByte
      match ← peekToken? with
      | none => refuseNext .endOfValue
      | some b => if b = closeBracket then refuseNext .trailingComma else pure true
    else refuseNext .expectedListCommaOrEnd

/-- The key of the next member, if there is one. -/
def nextKey? (first : Bool) : Reader (Option String) := do
  match ← peekToken? with
  | none => refuseNext .endOfObject
  | some b =>
    if b = closeBrace then pure none
    else if first then
      if b = quoteMark then do skipByte; some <$> stringBody
      else refuseNext .keyMustBeString
    else if b = comma then
      skipByte
      match ← peekToken? with
      | none => refuseNext .endOfValue
      | some b =>
        if b = quoteMark then do skipByte; some <$> stringBody
        else if b = closeBrace then refuseNext .trailingComma
        else refuseNext .keyMustBeString
    else refuseNext .expectedObjectCommaOrEnd

def closeArray : Reader Unit := do
  match ← peekToken? with
  | none => refuseNext .endOfList
  | some b =>
    if b = closeBracket then skipByte
    else if b = comma then
      skipByte
      if (← peekToken?) = some closeBracket then refuseNext .trailingComma
      else refuseNext .trailingCharacters
    else refuseNext .trailingCharacters

def closeObject : Reader Unit := do
  match ← peekToken? with
  | none => refuseNext .endOfObject
  | some b =>
    if b = closeBrace then skipByte
    else if b = comma then refuseNext .trailingComma
    else refuseNext .trailingCharacters

/-- The end of an array or of its last item, as far as the bytes allow. -/
def Cursor.pastArray (c : Cursor) : Cursor :=
  let c := skipWhileFrom isBlankByte c.place c.rest
  if c.rest.head? = some closeBracket then c.step
  else if c.rest.head? = some comma then
    skipWhileFrom isBlankByte c.step.place c.step.rest
  else c

/-- The end of an object, as far as the bytes allow. -/
def Cursor.pastObject (c : Cursor) : Cursor :=
  let c := skipWhileFrom isBlankByte c.place c.rest
  if c.rest.head? = some closeBrace then c.step else c

/-- Read what stands between brackets and then their end. A fault raised inside gets
its place behind the end. -/
def closing (past : Cursor → Cursor) (close : Reader Unit) (body : Reader α) : Reader α :=
  fun c =>
    match body c with
    | .ok (x, c) =>
      match close c with
      | .ok ((), c) => .ok (x, c)
      | .error stop => .error stop
    | .error (.raised fault c) => .error (.refused ⟨fault, (past c).place⟩)
    | .error stop => .error stop

/-- A fault raised by the reader gets the place where it arose. -/
def settled (body : Reader α) : Reader α :=
  closing id (pure ()) body

/-- The items of an array behind its opening bracket. -/
def itemsFrom (item : Reader α) : Nat → Bool → Reader (List α)
  | 0, _ => refuse .endOfList
  | bound + 1, first => do
    if ← nextItem first then
      let x ← item
      let xs ← itemsFrom item bound false
      pure (x :: xs)
    else pure []

def arrayOf (item : Reader α) : Reader (List α) := do
  skipByte
  closing Cursor.pastArray closeArray (itemsFrom item ((← bytesLeft) + 1) true)

mutual

/-- Pass over a value. `frames` holds the brackets around it, `true` for braces. -/
def skipValueFrom : Nat → List Bool → Reader Unit
  | 0, _ => refuse .endOfValue
  | bound + 1, frames => do
    let b ← peekValue
    if b = openBracket then
      skipByte
      match ← peekToken? with
      | none => refuseNext .endOfList
      | some b =>
        if b = closeBracket then
          skipByte
          skipRestFrom bound frames
        else skipValueFrom bound (false :: frames)
    else if b = openBrace then
      skipByte
      match ← peekToken? with
      | none => refuseNext .endOfObject
      | some b =>
        if b = closeBrace then
          skipByte
          skipRestFrom bound frames
        else
          skipKey
          skipValueFrom bound (true :: frames)
    else
      if b = 'n'.toUInt8 then nullWord
      else if b = 't'.toUInt8 then trueWord
      else if b = 'f'.toUInt8 then falseWord
      else if startsNumber b then skipNumber
      else if b = quoteMark then
        skipByte
        skipString ((← bytesLeft) + 1)
      else refuseNext .expectedValue
      skipRestFrom bound frames

/-- Pass over what follows a value inside the brackets around it. -/
def skipRestFrom : Nat → List Bool → Reader Unit
  | _, [] => pure ()
  | 0, _ :: _ => refuse .endOfValue
  | bound + 1, inObject :: frames => do
    match ← peekToken? with
    | none => refuseNext (if inObject then .endOfObject else .endOfList)
    | some b =>
      if b = comma then
        skipByte
        if inObject then skipKey
        skipValueFrom bound (inObject :: frames)
      else if b = (if inObject then closeBrace else closeBracket) then
        skipByte
        skipRestFrom bound frames
      else
        refuseNext (if inObject then .expectedObjectCommaOrEnd else .expectedListCommaOrEnd)

def skipKey : Reader Unit := do
  match ← peekToken? with
  | none => refuseNext .endOfObject
  | some b =>
    if b = quoteMark then
      skipByte
      skipString ((← bytesLeft) + 1)
      colon
    else refuseNext .keyMustBeString

end

def skipValue : Reader Unit := do
  skipValueFrom (2 * (← bytesLeft) + 2) []

/-- Only blanks are left. -/
def finish : Reader Unit := do
  if (← peekToken?).isSome then refuseNext .trailingCharacters

def Reader.run (r : Reader α) (bytes : List UInt8) : Except Refusal α :=
  match (do let x ← r; finish; pure x : Reader α) (.start bytes) with
  | .ok (x, _) => .ok x
  | .error (.refused r) => .error r
  | .error (.raised fault c) => .error ⟨fault, c.place⟩

end EdgeRender.Json
