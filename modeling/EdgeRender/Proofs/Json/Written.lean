import EdgeRender.Proofs.Json.Steps

/-! # JSON as it may be written

A value may be written in many ways: with blanks between the marks, with escapes in strings, with
a sign, a fraction or an exponent. `Written` is a value with the way it is written, and `bytes`
is its text. The texts of JSON values are these and no others.
-/
namespace EdgeRender.Json

open EdgeRender.Text

/-! ## Blanks -/

inductive Blank where
  | space | tab | lineFeed | carriageReturn
  deriving DecidableEq, Repr

def Blank.byte : Blank → UInt8
  | .space => 0x20
  | .tab => 0x09
  | .lineFeed => 0x0A
  | .carriageReturn => 0x0D

/-- The blanks between two marks. -/
structure Gap where
  blanks : List Blank := []
  deriving DecidableEq, Repr

namespace Gap

def bytes (g : Gap) : List UInt8 := g.blanks.map Blank.byte

theorem isBlankByte_of_mem {g : Gap} {b : UInt8} (h : b ∈ g.bytes) : isBlankByte b = true := by
  obtain ⟨blank, -, rfl⟩ := List.mem_map.mp h
  cases blank <;> rfl

/-- Blanks, or else what comes behind them. -/
theorem head?_append (g : Gap) (bytes : List UInt8) :
    (∃ b, (g.bytes ++ bytes).head? = some b ∧ isBlankByte b = true) ∨
      (g.bytes ++ bytes).head? = bytes.head? := by
  cases hg : g.bytes with
  | nil => exact .inr rfl
  | cons b more => exact .inl ⟨b, rfl, isBlankByte_of_mem (g := g) (by simp [hg])⟩

theorem separated_append (g : Gap) {bytes : List UInt8} (h : Separated bytes) :
    Separated (g.bytes ++ bytes) := by
  intro b hb
  rcases g.head?_append bytes with ⟨b', hb', hblank⟩ | hhead
  · obtain rfl : b = b' := Option.some.inj (hb.symm.trans hb')
    simp only [isBlankByte, Bool.or_eq_true, beq_iff_eq] at hblank
    rcases hblank with ((rfl | rfl) | rfl) | rfl <;> decide
  · exact h b (hhead ▸ hb)

end Gap

/-! ## Strings -/

/-- A hexadecimal digit, with a small or a capital letter. -/
structure HexDigit where
  value : Fin 16
  capital : Bool
  deriving DecidableEq, Repr

def HexDigit.char (d : HexDigit) : Char :=
  if d.capital then hexDigitUpper d.value else hexDigit d.value

def HexDigit.byte (d : HexDigit) : UInt8 := .ofNat d.char.toNat

/-- A number of sixteen bits, by its digits. -/
structure CodeUnit where
  first : HexDigit
  second : HexDigit
  third : HexDigit
  fourth : HexDigit
  deriving DecidableEq, Repr

namespace CodeUnit

def value (u : CodeUnit) : Nat :=
  ((u.first.value * 16 + u.second.value) * 16 + u.third.value) * 16 + u.fourth.value

def bytes (u : CodeUnit) : List UInt8 :=
  [u.first.byte, u.second.byte, u.third.byte, u.fourth.byte]

/-- The first half of a pair. -/
def isHigh (u : CodeUnit) : Bool := 0xD800 ≤ u.value && u.value ≤ 0xDBFF

/-- The second half of a pair. -/
def isLow (u : CodeUnit) : Bool := 0xDC00 ≤ u.value && u.value ≤ 0xDFFF

/-- The character that two halves spell together. -/
def paired (high low : CodeUnit) : Char :=
  .ofNat (0x10000 + (high.value - 0xD800) * 0x400 + (low.value - 0xDC00))

end CodeUnit

inductive Piece where
  /-- A character that stands for itself. -/
  | plain (c : Char) (quote : c ≠ '"') (slash : c ≠ '\\') (control : ¬ c.val < 0x20)
  /-- A letter behind a backslash. -/
  | short (letter c : Char) (known : (letter, c) ∈ shortEscapes)
  /-- Four digits behind a backslash and a `u`. -/
  | unit (u : CodeUnit)

namespace Piece

def bytes : Piece → List UInt8
  | .plain c _ _ _ => String.utf8EncodeChar c
  | .short letter _ _ => ['\\'.toUInt8, .ofNat letter.toNat]
  | .unit u => '\\'.toUInt8 :: 'u'.toUInt8 :: u.bytes

end Piece

def piecesBytes (ps : List Piece) : List UInt8 := ps.flatMap Piece.bytes

/-- The characters that pieces spell. One half of a pair alone spells nothing. -/
def spelled? : List Piece → Option (List Char)
  | [] => some []
  | .plain c _ _ _ :: ps => (c :: ·) <$> spelled? ps
  | .short _ c _ :: ps => (c :: ·) <$> spelled? ps
  | .unit u :: ps =>
    if u.isHigh then
      match ps with
      | .unit low :: ps => if low.isLow then (u.paired low :: ·) <$> spelled? ps else none
      | _ => none
    else if u.isLow then none
    else (Char.ofNat u.value :: ·) <$> spelled? ps

def quoted (ps : List Piece) : List UInt8 := quoteMark :: (piecesBytes ps ++ [quoteMark])

/-! ## Numbers -/

/-- One digit or more. -/
structure Digits where
  first : Fin 10
  others : List (Fin 10) := []
  deriving DecidableEq, Repr

def digitByte (d : Fin 10) : UInt8 := .ofNat (48 + d.val)

def Digits.bytes (ds : Digits) : List UInt8 := (ds.first :: ds.others).map digitByte

structure Exponent where
  capital : Bool
  /-- Is there a sign, and is it a minus? -/
  sign : Option Bool
  digits : Digits
  deriving DecidableEq, Repr

def signBytes : Option Bool → List UInt8
  | none => []
  | some true => ['-'.toUInt8]
  | some false => ['+'.toUInt8]

def Exponent.markByte (e : Exponent) : UInt8 := if e.capital then 'E'.toUInt8 else 'e'.toUInt8

def Exponent.bytes (e : Exponent) : List UInt8 :=
  e.markByte :: (signBytes e.sign ++ e.digits.bytes)

/-- A number. The digits in front of the point begin with a zero only if it is the only one. -/
structure Numeral where
  negative : Bool
  whole : Nat
  fraction : Option Digits
  exponent : Option Exponent
  deriving DecidableEq, Repr

namespace Numeral

def fractionBytes : Option Digits → List UInt8
  | none => []
  | some ds => '.'.toUInt8 :: ds.bytes

def exponentBytes : Option Exponent → List UInt8
  | none => []
  | some e => e.bytes

def bytes (n : Numeral) : List UInt8 :=
  (if n.negative then ['-'.toUInt8] else []) ++
    (digitBytes n.whole ++ (fractionBytes n.fraction ++ exponentBytes n.exponent))

end Numeral

/-! ## Values -/

/-- An item of an array, with the blanks before the comma in front of it and behind that. -/
structure Item (α : Type) where
  before : Gap
  behind : Gap
  value : α

/-- A member of an object, with the blanks around the comma in front of it and around the
colon. -/
structure Member (α : Type) where
  before : Gap
  behind : Gap
  key : List Piece
  past : Gap
  lead : Gap
  value : α

/-- A value as it is written. The last gap of an array or object stands before its end. -/
inductive Written where
  | null
  | boolean (b : Bool)
  | number (n : Numeral)
  | string (pieces : List Piece)
  | array (items : List (Item Written)) (last : Gap)
  | object (members : List (Member Written)) (last : Gap)

mutual

def Written.bytes : Written → List UInt8
  | .null => Utf8.encode "null".toList
  | .boolean true => Utf8.encode "true".toList
  | .boolean false => Utf8.encode "false".toList
  | .number n => n.bytes
  | .string ps => quoted ps
  | .array items last => openBracket :: (itemsBytes true items ++ (last.bytes ++ [closeBracket]))
  | .object members last =>
    openBrace :: (membersBytes true members ++ (last.bytes ++ [closeBrace]))

def itemsBytes : Bool → List (Item Written) → List UInt8
  | _, [] => []
  | first, ⟨before, behind, w⟩ :: items =>
    before.bytes ++ (separator first ++ (behind.bytes ++ (w.bytes ++ itemsBytes false items)))

def membersBytes : Bool → List (Member Written) → List UInt8
  | _, [] => []
  | first, ⟨before, behind, key, past, lead, w⟩ :: members =>
    before.bytes ++ (separator first ++ (behind.bytes ++ (quoted key ++
      (past.bytes ++ ':'.toUInt8 :: (lead.bytes ++ (w.bytes ++ membersBytes false members))))))

end

/-- A text that a value begins with a byte of. -/
theorem Numeral.exists_bytes (n : Numeral) :
    ∃ b more, n.bytes = b :: more ∧ startsNumber b = true := by
  obtain ⟨b, more, hdigits, hb⟩ := digitBytes_cons n.whole
  unfold Numeral.bytes
  cases n.negative with
  | true => exact ⟨_, _, rfl, rfl⟩
  | false =>
    refine ⟨b, _, by rw [hdigits]; rfl, ?_⟩
    simp [startsNumber, hb]

theorem leadsValue_of_startsNumber {b : UInt8} (h : startsNumber b = true) : LeadsValue b := by
  rcases Bool.or_eq_true_iff.mp h with hminus | hdigit
  · obtain rfl : b = '-'.toUInt8 := by simpa using hminus
    unfold LeadsValue
    decide
  · exact leadsValue_of_isDigitByte hdigit

/-- A value does not begin with a blank, nor with the end of an array. -/
theorem Written.exists_bytes (w : Written) : ∃ b more, w.bytes = b :: more ∧ LeadsValue b := by
  cases w with
  | null => exact ⟨_, _, rfl, by unfold LeadsValue; decide⟩
  | boolean b => cases b <;> exact ⟨_, _, rfl, by unfold LeadsValue; decide⟩
  | number n =>
    obtain ⟨b, more, hbytes, hb⟩ := n.exists_bytes
    exact ⟨b, more, hbytes, leadsValue_of_startsNumber hb⟩
  | string ps => exact ⟨_, _, rfl, leadsValue_quoteMark⟩
  | array items last => exact ⟨_, _, rfl, by unfold LeadsValue; decide⟩
  | object members last => exact ⟨_, _, rfl, by unfold LeadsValue; decide⟩

/-- Behind an item comes a comma or the end, blanks before it or not. -/
theorem separated_itemsBytes (items : List (Item Written)) (last : Gap) (rest : List UInt8) :
    Separated (itemsBytes false items ++ (last.bytes ++ closeBracket :: rest)) := by
  cases items with
  | nil => exact last.separated_append (separated_cons (.inr (.inl rfl)) rest)
  | cons item items =>
    simp only [itemsBytes, separator, List.append_assoc]
    exact item.before.separated_append (separated_cons (.inl rfl) _)

theorem separated_membersBytes (members : List (Member Written)) (last : Gap)
    (rest : List UInt8) :
    Separated (membersBytes false members ++ (last.bytes ++ closeBrace :: rest)) := by
  cases members with
  | nil => exact last.separated_append (separated_cons (.inr (.inr rfl)) rest)
  | cons member members =>
    simp only [membersBytes, separator, List.append_assoc]
    exact member.before.separated_append (separated_cons (.inl rfl) _)

end EdgeRender.Json
