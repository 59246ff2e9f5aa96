import EdgeRender.Json.Value
import EdgeRender.Json.Reader
import EdgeRender.Proofs.Text.Digits
import EdgeRender.Proofs.Text.Parts
import EdgeRender.Proofs.Text.Utf8
import Mathlib.Tactic.Set
import Mathlib.Tactic.SplitIfs

/-! # Reading what was written

A reader consumes a text if it takes exactly the bytes of it and gives a value, whatever comes
after them. Words, marks and written strings are consumed so, and written numbers if no digit,
point or exponent comes after them.
-/
namespace EdgeRender.Json

open EdgeRender.Text

def Place.over (p : Place) (bytes : List UInt8) : Place := bytes.foldl Place.after p

@[simp] theorem Place.over_nil (p : Place) : p.over [] = p := rfl

@[simp] theorem Place.over_cons (p : Place) (b : UInt8) (bytes : List UInt8) :
    p.over (b :: bytes) = (p.after b).over bytes := rfl

@[simp] theorem Place.over_append (p : Place) (bytes bytes' : List UInt8) :
    p.over (bytes ++ bytes') = (p.over bytes).over bytes' :=
  List.foldl_append

/-- The reader takes the bytes of the text and gives `x`, whatever comes after them. -/
def Consumes (r : Reader α) (text : List UInt8) (x : α) : Prop :=
  ∀ place rest, r ⟨place, text ++ rest⟩ = .ok (x, ⟨place.over text, rest⟩)

theorem bind_of_ok {r : Reader α} {f : α → Reader β} {c c' : Cursor} {x : α}
    (h : r c = .ok (x, c')) : (r >>= f) c = f x c' := by
  show Except.bind (r c) (fun a => f a.1 a.2) = f x c'
  rw [h]
  rfl

theorem map_of_ok {r : Reader α} {f : α → β} {c c' : Cursor} {x : α} (h : r c = .ok (x, c')) :
    (f <$> r) c = .ok (f x, c') := by
  show Except.bind (r c) (fun a => .ok (f a.1, a.2)) = .ok (f x, c')
  rw [h]
  rfl

/-! ## Words and marks -/

theorem consumes_colon : Consumes colon [':'.toUInt8] () := fun _ _ => rfl

theorem skipWhileFrom_of_head {p : UInt8 → Bool} {place : Place} {rest : List UInt8}
    (h : ∀ b ∈ rest.head?, p b = false) : skipWhileFrom p place rest = ⟨place, rest⟩ := by
  cases rest with
  | nil => rfl
  | cons b rest => simp [skipWhileFrom, h b rfl]

theorem skipWhileFrom_append {p : UInt8 → Bool} {bytes rest : List UInt8}
    (h : ∀ b ∈ bytes, p b = true) (hrest : ∀ b ∈ rest.head?, p b = false) (place : Place) :
    skipWhileFrom p place (bytes ++ rest) = ⟨place.over bytes, rest⟩ := by
  induction bytes generalizing place with
  | nil => exact skipWhileFrom_of_head hrest
  | cons b bytes ih =>
    simp only [List.cons_append, skipWhileFrom, h b (by simp), if_true]
    exact ih (fun b' hb' => h b' (by simp [hb'])) _

/-- A byte that is not blank is met where it stands. -/
theorem peekToken?_cons {b : UInt8} (h : isBlankByte b = false) (place : Place)
    (rest : List UInt8) :
    peekToken? ⟨place, b :: rest⟩ = .ok (some b, ⟨place, b :: rest⟩) := by
  have hskip : skipBlanks ⟨place, b :: rest⟩ = .ok ((), ⟨place, b :: rest⟩) := by
    unfold skipBlanks
    rw [skipWhileFrom_of_head (by simpa using h)]
  exact bind_of_ok hskip

theorem peekValue_cons {b : UInt8} (h : isBlankByte b = false) (place : Place)
    (rest : List UInt8) : peekValue ⟨place, b :: rest⟩ = .ok (b, ⟨place, b :: rest⟩) :=
  bind_of_ok (peekToken?_cons h place rest)

/-! ## Strings -/

section Strings

/-- A byte that stands for itself inside a string. -/
def IsPlain (b : UInt8) : Prop := b ≠ '"'.toUInt8 ∧ b ≠ '\\'.toUInt8 ∧ ¬ b < 0x20

theorem stringBytes_plain {b : UInt8} (h : IsPlain b) (bound : Nat) (read : List UInt8)
    (place : Place) (rest : List UInt8) :
    stringBytes (bound + 1) read ⟨place, b :: rest⟩ =
      stringBytes bound (b :: read) ⟨place.after b, rest⟩ := by
  obtain ⟨hquote, hslash, hcontrol⟩ := h
  have hpeek : peek? ⟨place, b :: rest⟩ = .ok (some b, ⟨place, b :: rest⟩) := rfl
  have hskip : skipByte ⟨place, b :: rest⟩ = .ok ((), ⟨place.after b, rest⟩) := rfl
  rw [stringBytes, bind_of_ok hpeek]
  dsimp only
  rw [if_neg hquote, bind_of_ok hskip, if_neg hslash, if_neg hcontrol]

/-- The reader of a string takes `text` for `bytes`, in as many rounds as there are bytes in
the text at most. -/
def Spells (text bytes : List UInt8) : Prop :=
  ∃ rounds ≤ text.length, ∀ bound read place rest,
    stringBytes (bound + rounds) read ⟨place, text ++ rest⟩ =
      stringBytes bound (bytes.reverse ++ read) ⟨place.over text, rest⟩

theorem spells_nil : Spells [] [] := ⟨0, Nat.le_refl _, fun _ _ _ _ => rfl⟩

theorem Spells.append {text bytes text' bytes' : List UInt8} (h : Spells text bytes)
    (h' : Spells text' bytes') : Spells (text ++ text') (bytes ++ bytes') := by
  obtain ⟨rounds, hle, hread⟩ := h
  obtain ⟨rounds', hle', hread'⟩ := h'
  refine ⟨rounds + rounds', ?_, ?_⟩
  · rw [List.length_append]
    omega
  · intro bound read place rest
    rw [Nat.add_comm rounds, ← Nat.add_assoc, List.append_assoc, hread, hread', Place.over_append,
      List.reverse_append, List.append_assoc]

theorem spells_plain {bytes : List UInt8} (h : ∀ b ∈ bytes, IsPlain b) : Spells bytes bytes := by
  induction bytes with
  | nil => exact spells_nil
  | cons b bytes ih =>
    have hfirst : Spells [b] [b] :=
      ⟨1, Nat.le_refl _, fun bound read => stringBytes_plain (h b (by simp)) bound read⟩
    exact hfirst.append (ih fun b' hb' => h b' (by simp [hb']))

/-- The bytes of a character that needs no escape stand for themselves. -/
theorem isPlain_of_mem {c : Char} (hquote : c ≠ '"') (hslash : c ≠ '\\') (hcontrol : ¬ c.val < 0x20)
    {b : UInt8} (hb : b ∈ String.utf8EncodeChar c) : IsPlain b := by
  have hle : 0x20 ≤ c.toNat := by simpa [UInt32.lt_iff_toNat_lt] using hcontrol
  have htoNat : ∀ n, n < 256 → (UInt8.ofNat n).toNat = n := fun n => UInt8.toNat_ofNat_of_lt'
  have hne : ∀ d : Char, d.toNat < 0x80 → c ≠ d → b ≠ .ofNat d.toNat := by
    intro d hd hcd hbd
    have hdb : b.toNat = d.toNat := by
      rw [hbd, htoNat _ (by omega)]
    by_cases hascii : c.toNat < 0x80
    · rw [Utf8.utf8EncodeChar_of_lt hascii, List.mem_singleton] at hb
      rw [hb, htoNat _ (by omega)] at hdb
      exact hcd (Char.toNat_inj.mp hdb)
    · have hbyte := Utf8.le_of_mem_utf8EncodeChar (by omega) hb
      omega
  refine ⟨hne '"' (by decide) hquote, hne '\\' (by decide) hslash, ?_⟩
  rw [UInt8.lt_iff_toNat_lt]
  by_cases hascii : c.toNat < 0x80
  · rw [Utf8.utf8EncodeChar_of_lt hascii, List.mem_singleton] at hb
    rw [hb, htoNat _ (by omega)]
    simpa using hle
  · have hbyte := Utf8.le_of_mem_utf8EncodeChar (by omega) hb
    simp
    omega

/-- An escape is read behind its backslash. -/
theorem spells_escape {escaped : List UInt8} {c : Char} (h : Consumes escape escaped c) :
    Spells ('\\'.toUInt8 :: escaped) (String.utf8EncodeChar c) := by
  refine ⟨1, by simp, fun bound read place rest => ?_⟩
  have hpeek : peek? ⟨place, '\\'.toUInt8 :: (escaped ++ rest)⟩ =
      .ok (some '\\'.toUInt8, ⟨place, '\\'.toUInt8 :: (escaped ++ rest)⟩) := rfl
  have hskip : skipByte ⟨place, '\\'.toUInt8 :: (escaped ++ rest)⟩ =
      .ok ((), ⟨place.after '\\'.toUInt8, escaped ++ rest⟩) := rfl
  rw [List.cons_append, stringBytes, bind_of_ok hpeek]
  dsimp only
  rw [if_neg (by decide), bind_of_ok hskip, if_pos rfl, bind_of_ok (h _ _), Place.over_cons]

/-- A letter behind a backslash is read as what it stands for. -/
theorem consumes_short {b : UInt8} {c : Char} (hu : b ≠ 'u'.toUInt8)
    (h : shortEscapes.lookup (Char.ofNat b.toNat) = some c) : Consumes escape [b] c := by
  intro place rest
  have hnext : next? ⟨place, b :: rest⟩ = .ok (some b, ⟨place.after b, rest⟩) := rfl
  rw [List.singleton_append, escape, bind_of_ok hnext]
  dsimp only
  rw [if_neg hu, h]
  rfl

theorem skip_append (place : Place) (bytes rest : List UInt8) :
    (Cursor.mk place (bytes ++ rest)).skip bytes.length = ⟨place.over bytes, rest⟩ := by
  induction bytes generalizing place with
  | nil => rfl
  | cons b bytes ih => exact ih (place.after b)

/-- Four digits are read as their number. -/
theorem consumes_hexEscape {digits : List UInt8} {n : Nat} (hlength : digits.length = 4)
    (h : hexNumber? digits = some n) : Consumes hexEscape digits n := by
  intro place rest
  have htake : takeBytes 4 ⟨place, digits ++ rest⟩ = .ok (digits, ⟨place.over digits, rest⟩) := by
    rw [takeBytes, ← hlength, skip_append, List.take_left]
  rw [hexEscape, bind_of_ok htake, if_neg (by omega), h]
  rfl

/-- Four digits behind a `u` are read as a control character. -/
theorem consumes_control {digits : List UInt8} {c : Char} (hcontrol : c.toNat < 0x20)
    (hlength : digits.length = 4) (h : hexNumber? digits = some c.toNat) :
    Consumes escape ('u'.toUInt8 :: digits) c := by
  intro place rest
  have hhex := consumes_hexEscape hlength h (place.after 'u'.toUInt8) rest
  have hnext : next? ⟨place, 'u'.toUInt8 :: (digits ++ rest)⟩ =
      .ok (some 'u'.toUInt8, ⟨place.after 'u'.toUInt8, digits ++ rest⟩) := rfl
  rw [List.cons_append, escape, bind_of_ok hnext]
  dsimp only
  rw [if_pos rfl, unicodeEscape, bind_of_ok hhex, if_neg (by omega), if_pos (by omega),
    Char.ofNat_toNat]
  rfl

/-- The digits that a control character is written with. -/
theorem hexNumber?_control : ∀ n : Fin 32,
    let digits := Utf8.encode ['0', '0', hexDigit (n / 16), hexDigit (n % 16)]
    digits.length = 4 ∧ hexNumber? digits = some n.val := by
  decide

theorem spells_escapeChar (c : Char) :
    Spells (Utf8.encode (escapeChar c)) (String.utf8EncodeChar c) := by
  have hshort : ∀ {letter c : Char} {b : UInt8}, Utf8.encode [letter] = [b] → b ≠ 'u'.toUInt8 →
      shortEscapes.lookup (Char.ofNat b.toNat) = some c →
      Spells (Utf8.encode ['\\', letter]) (String.utf8EncodeChar c) := by
    intro letter c b hletter hu hlookup
    rw [Utf8.encode_cons, hletter]
    exact spells_escape (consumes_short hu hlookup)
  unfold escapeChar
  -- Short escapes first, then the control characters; any other character stands for itself.
  split_ifs with hquote hslash hfeed hreturn htab hback hform hcontrol
  · subst hquote
    exact hshort rfl (by decide) rfl
  · subst hslash
    exact hshort rfl (by decide) rfl
  · subst hfeed
    exact hshort rfl (by decide) rfl
  · subst hreturn
    exact hshort rfl (by decide) rfl
  · subst htab
    exact hshort rfl (by decide) rfl
  · obtain rfl : c = '\x08' := Char.ext hback
    exact hshort rfl (by decide) rfl
  · obtain rfl : c = '\x0c' := Char.ext hform
    exact hshort rfl (by decide) rfl
  · have hlt : c.toNat < 0x20 := by simpa [UInt32.lt_iff_toNat_lt] using hcontrol
    obtain ⟨hlength, hnumber⟩ := hexNumber?_control ⟨c.toNat, hlt⟩
    exact spells_escape (consumes_control hlt hlength hnumber)
  · have hself : Utf8.encode [c] = String.utf8EncodeChar c := by simp [Utf8.encode]
    rw [hself]
    exact spells_plain fun b hb => isPlain_of_mem hquote hslash hcontrol hb

theorem spells_escaped (s : List Char) :
    Spells (Utf8.encode (s.flatMap escapeChar)) (Utf8.encode s) := by
  induction s with
  | nil => exact spells_nil
  | cons c s ih =>
    rw [List.flatMap_cons, Utf8.encode_append, Utf8.encode_cons]
    exact (spells_escapeChar c).append ih

/-- A string is read behind its opening quote, however it is spelled. -/
theorem Spells.consumes {text : List UInt8} {s : List Char} (h : Spells text (Utf8.encode s)) :
    Consumes stringBody (text ++ ['"'.toUInt8]) (.ofList s) := by
  intro place rest
  obtain ⟨rounds, hle, hread⟩ := h
  rw [List.append_assoc, List.singleton_append]
  -- the bound leaves a round for the closing quote
  have hbound : ∃ bound, (text ++ '"'.toUInt8 :: rest).length + 1 = (bound + 1) + rounds := by
    refine ⟨(text ++ '"'.toUInt8 :: rest).length - rounds, ?_⟩
    rw [List.length_append, List.length_cons]
    omega
  obtain ⟨bound, hbound⟩ := hbound
  have hleft : bytesLeft ⟨place, text ++ '"'.toUInt8 :: rest⟩ =
      .ok ((text ++ '"'.toUInt8 :: rest).length, ⟨place, text ++ '"'.toUInt8 :: rest⟩) := rfl
  have hbytes : stringBytes ((text ++ '"'.toUInt8 :: rest).length + 1) []
      ⟨place, text ++ '"'.toUInt8 :: rest⟩ =
      .ok (Utf8.encode s, ⟨place.over text, '"'.toUInt8 :: rest⟩) := by
    rw [hbound, hread, List.append_nil]
    have hend : ∀ place, stringBytes (bound + 1) (Utf8.encode s).reverse
        ⟨place, '"'.toUInt8 :: rest⟩ =
        .ok ((Utf8.encode s).reverse.reverse, ⟨place, '"'.toUInt8 :: rest⟩) := fun _ => rfl
    rw [hend, List.reverse_reverse]
  have hskip : skipByte ⟨place.over text, '"'.toUInt8 :: rest⟩ =
      .ok ((), ⟨place.over (text ++ ['"'.toUInt8]), rest⟩) := by
    rw [Place.over_append]
    rfl
  rw [stringBody, bind_of_ok hleft, bind_of_ok hbytes, bind_of_ok hskip, Utf8.decode_encode]
  rfl

/-- A written string is read back, behind its opening quote. -/
theorem consumes_stringBody (s : String) :
    Consumes stringBody (Utf8.encode (s.toList.flatMap escapeChar ++ ['"'])) s := by
  have hread := (spells_escaped s.toList).consumes
  rw [String.ofList_toList] at hread
  rw [Utf8.encode_append]
  exact hread

end Strings

/-! ## Numbers -/

section Numbers

/-- Nothing that could belong to a number stands in front. -/
def Separated (rest : List UInt8) : Prop :=
  ∀ b ∈ rest.head?, isDigitByte b = false ∧ b ≠ '.'.toUInt8 ∧ isExponentMark (some b) = false

theorem separated_nil : Separated [] := by simp [Separated]

theorem separated_cons {b : UInt8} (h : b = comma ∨ b = closeBracket ∨ b = closeBrace)
    (rest : List UInt8) : Separated (b :: rest) := by
  intro b' hb'
  obtain rfl : b = b' := by simpa using hb'
  rcases h with rfl | rfl | rfl <;> decide

/-- Digits are taken together as long as they fit into 64 bits. -/
theorem absorb_of_le (n : Nat) {digits : List Nat} (h : valueFrom n digits ≤ maxNatural) :
    absorb n digits = (valueFrom n digits, []) := by
  induction digits generalizing n with
  | nil => rfl
  | cons d digits ih =>
    have hle : valueFrom (n * 10 + d) digits ≤ maxNatural := h
    have hfits := le_valueFrom (n * 10 + d) digits
    rw [absorb, if_neg (by omega), ih _ hle]
    rfl

def digitBytes (n : Nat) : List UInt8 := Utf8.encode (Nat.toDigits 10 n)

theorem isDigit_iff (c : Char) : c.isDigit = true ↔ 48 ≤ c.toNat ∧ c.toNat ≤ 57 := by
  simp [Char.isDigit, UInt32.le_iff_toNat_le]

theorem digitBytes_eq (n : Nat) :
    digitBytes n = (Nat.toDigits 10 n).map fun c => UInt8.ofNat c.toNat := by
  have hdigits : ∀ c ∈ Nat.toDigits 10 n, c.isDigit = true := fun c => isDigit_of_mem_toDigits
  unfold digitBytes
  generalize Nat.toDigits 10 n = digits at hdigits
  induction digits with
  | nil => rfl
  | cons c digits ih =>
    have hc := (isDigit_iff c).mp (hdigits c (by simp))
    rw [Utf8.encode_cons, Utf8.utf8EncodeChar_of_lt (by omega), List.map_cons,
      ih fun c' hc' => hdigits c' (by simp [hc'])]
    rfl

theorem toNat_digitByte {c : Char} (h : c.isDigit = true) :
    (UInt8.ofNat c.toNat).toNat = c.toNat := by
  have hc := (isDigit_iff c).mp h
  exact UInt8.toNat_ofNat_of_lt' (show c.toNat < 256 by omega)

theorem isDigitByte_of_mem {n : Nat} {b : UInt8} (h : b ∈ digitBytes n) : isDigitByte b = true := by
  rw [digitBytes_eq] at h
  obtain ⟨c, hc, rfl⟩ := List.mem_map.mp h
  have hdigit := isDigit_of_mem_toDigits hc
  have hbounds := (isDigit_iff c).mp hdigit
  simp [isDigitByte, UInt8.le_iff_toNat_le, toNat_digitByte hdigit]
  omega

/-- The digits of a number have its value. -/
theorem valueFrom_digitBytes (n : Nat) :
    valueFrom 0 ((digitBytes n).map fun b => b.toNat - 48) = n := by
  have hmap : (Nat.toDigits 10 n).map ((fun b : UInt8 => b.toNat - 48) ∘ fun c => .ofNat c.toNat) =
      (Nat.toDigits 10 n).map fun c => c.toNat - 48 := by
    refine List.map_congr_left fun c hc => ?_
    simp [toNat_digitByte (isDigit_of_mem_toDigits hc)]
  rw [digitBytes_eq, List.map_map, hmap, valueFrom_toDigits]

theorem digitRun_append {bytes rest : List UInt8} (h : ∀ b ∈ bytes, isDigitByte b = true)
    (hrest : ∀ b ∈ rest.head?, isDigitByte b = false) (place : Place) :
    digitRun ⟨place, bytes ++ rest⟩ =
      .ok (bytes.map fun b => b.toNat - 48, ⟨place.over bytes, rest⟩) := by
  rw [digitRun, takeWhile_append_of_head h hrest, skipWhileFrom_append h hrest]

theorem digitBytes_ne_nil (n : Nat) : digitBytes n ≠ [] := by
  rw [digitBytes_eq, ne_eq, List.map_eq_nil_iff]
  exact Nat.toDigits_ne_nil

/-- Only zero is written with a zero in front. -/
theorem head?_digitBytes {n : Nat} (h : 0 < n) : (digitBytes n).head? ≠ some '0'.toUInt8 := by
  rw [digitBytes_eq, List.head?_map]
  intro hhead
  obtain ⟨c, hc, hzero⟩ := Option.map_eq_some_iff.mp hhead
  have hdigit := isDigit_of_mem_toDigits (List.mem_of_mem_head? hc)
  have hc' : c = '0' := by
    rw [← Char.toNat_inj, ← toNat_digitByte hdigit, hzero]
    rfl
  exact head?_toDigits (by decide) (by decide) h (hc' ▸ hc)

theorem digitBytes_cons (n : Nat) :
    ∃ b bytes, digitBytes n = b :: bytes ∧ isDigitByte b = true := by
  obtain ⟨b, bytes, hbytes⟩ := List.exists_cons_of_ne_nil (digitBytes_ne_nil n)
  exact ⟨b, bytes, hbytes, isDigitByte_of_mem (n := n) (by simp [hbytes])⟩

theorem eq_zero_of_digitBytes {n : Nat} {b : UInt8} {more : List UInt8}
    (h : digitBytes n = b :: more) (hzero : b = '0'.toUInt8) : n = 0 := by
  refine Nat.eq_zero_of_not_pos fun hpos => head?_digitBytes hpos ?_
  rw [h, hzero]
  rfl

/-- Behind the digits nothing is read. -/
theorem peek?_separated {rest : List UInt8} (h : Separated rest) (place : Place) :
    ∃ mark, peek? ⟨place, rest⟩ = .ok (mark, ⟨place, rest⟩) ∧ mark ≠ some '.'.toUInt8 ∧
      isExponentMark mark = false := by
  refine ⟨rest.head?, rfl, ?_⟩
  cases rest with
  | nil => decide
  | cons b rest =>
    obtain ⟨-, hpoint, hmark⟩ := h b rfl
    exact ⟨by simpa using hpoint, hmark⟩

/-- No digit comes next. -/
def EndsDigits (rest : List UInt8) : Prop := ∀ b ∈ rest.head?, isDigitByte b = false

theorem EndsDigits.any_head? {rest : List UInt8} (h : EndsDigits rest) :
    rest.head?.any isDigitByte = false := by
  cases hhead : rest.head? with
  | none => rfl
  | some b => exact h b hhead

theorem Separated.endsDigits {rest : List UInt8} (h : Separated rest) : EndsDigits rest :=
  fun b hb => (h b hb).1

/-- What comes behind the digits in front of the point. -/
def numberTail (negative : Bool) (read : Nat × List Nat) : Reader Number := do
  let mark ← peek?
  if mark = some '.'.toUInt8 then
    skipByte
    fractionPart negative read.1 read.2.length
  else if isExponentMark mark then
    skipByte
    exponentPart negative read.1 read.2.length
  else wholeNumber negative read.1 read.2

/-- The digits in front of the point, as far as they fit into 64 bits. -/
def absorbed (n : Nat) : Nat × List Nat := absorb 0 ((digitBytes n).map fun b => b.toNat - 48)

/-- The digits in front of the point are read, and then what comes behind them. -/
theorem unsignedNumber_digits (negative : Bool) (n : Nat) {rest : List UInt8}
    (hrest : EndsDigits rest) (place : Place) :
    unsignedNumber negative ⟨place, digitBytes n ++ rest⟩ =
      numberTail negative (absorbed n) ⟨place.over (digitBytes n), rest⟩ := by
  obtain ⟨b, more, hbytes, hdigit⟩ := digitBytes_cons n
  have hfirst : peek? ⟨place, digitBytes n ++ rest⟩ =
      .ok (some b, ⟨place, digitBytes n ++ rest⟩) := by
    rw [hbytes]
    rfl
  have hnext : peek? ⟨place.over (digitBytes n), rest⟩ =
      .ok (rest.head?, ⟨place.over (digitBytes n), rest⟩) := rfl
  have hnone := hrest.any_head?
  rw [unsignedNumber, bind_of_ok hfirst]
  dsimp only
  rw [hdigit, if_neg (by decide)]
  by_cases hzero : b = '0'.toUInt8
  · -- a zero in front is the only digit there
    obtain rfl := eq_zero_of_digitBytes hbytes hzero
    have hskip : skipByte ⟨place, digitBytes 0 ++ rest⟩ =
        .ok ((), ⟨place.over (digitBytes 0), rest⟩) := rfl
    rw [if_pos hzero, bind_of_ok hskip, pure_bind, bind_of_ok hnext, if_neg (by simp [hnone])]
    rfl
  · have hrun := digitRun_append (fun b => isDigitByte_of_mem (n := n)) hrest place
    rw [if_neg hzero, bind_of_ok hrun, bind_of_ok hnext, if_neg (by simp [hzero])]
    rfl

/-- Nothing comes behind the digits of a natural number of 64 bits. -/
theorem numberTail_separated {n : Nat} (h : n ≤ maxNatural) {rest : List UInt8}
    (hrest : Separated rest) (place : Place) :
    numberTail false (absorbed n) ⟨place, rest⟩ = .ok (.integer n, ⟨place, rest⟩) := by
  have hvalue := valueFrom_digitBytes n
  have habsorb := absorb_of_le 0 (Nat.le_trans (Nat.le_of_eq hvalue) h)
  rw [hvalue] at habsorb
  obtain ⟨mark, hpeek, hpoint, hmark⟩ := peek?_separated hrest place
  rw [absorbed, habsorb, numberTail, bind_of_ok hpeek, if_neg hpoint, hmark, if_neg (by decide)]
  rfl

/-- A natural number of 64 bits is read back from its digits. -/
theorem number_digitBytes {n : Nat} (h : n ≤ maxNatural) {rest : List UInt8}
    (hrest : Separated rest) (place : Place) :
    number ⟨place, digitBytes n ++ rest⟩ =
      .ok (.integer n, ⟨place.over (digitBytes n), rest⟩) := by
  have hpeek : peek? ⟨place, digitBytes n ++ rest⟩ =
      .ok ((digitBytes n ++ rest).head?, ⟨place, digitBytes n ++ rest⟩) := rfl
  have hsign : (digitBytes n ++ rest).head? ≠ some '-'.toUInt8 := by
    obtain ⟨b, bytes, hbytes, hb⟩ := digitBytes_cons n
    rw [hbytes]
    intro hhead
    obtain rfl : b = '-'.toUInt8 := by simpa using hhead
    revert hb
    decide
  rw [number, bind_of_ok hpeek, if_neg hsign, unsignedNumber_digits false n hrest.endsDigits,
    numberTail_separated h hrest]

end Numbers
end EdgeRender.Json
