import EdgeRender.Proofs.Json.Written

/-! # Values that are passed over

A value that nobody asked for is passed over by its form alone: whatever a value is and however
it is written, exactly its text is taken. Brackets may nest as deep as they like, and halves of
pairs may stand alone in strings.
-/
namespace EdgeRender.Json

open EdgeRender.Text

/-! ## Strings -/

theorem HexDigit.hexValue?_byte (d : HexDigit) :
    hexValue? (Char.ofNat d.byte.toNat) = some d.value.val := by
  have hall : ∀ (value : Fin 16) (capital : Bool),
      hexValue? (Char.ofNat (HexDigit.mk value capital).byte.toNat) = some value.val := by decide
  exact hall d.value d.capital

theorem CodeUnit.hexNumber?_bytes (u : CodeUnit) : hexNumber? u.bytes = some u.value := by
  simp [hexNumber?, CodeUnit.bytes, CodeUnit.value, HexDigit.hexValue?_byte]

theorem CodeUnit.consumes_hexEscape (u : CodeUnit) : Consumes hexEscape u.bytes u.value :=
  Json.consumes_hexEscape rfl u.hexNumber?_bytes

/-- The letter of a short escape is no `u`, and is looked up. -/
theorem shortEscapes_lookup : ∀ p ∈ shortEscapes, UInt8.ofNat p.1.toNat ≠ 'u'.toUInt8 ∧
    shortEscapes.lookup (Char.ofNat (UInt8.ofNat p.1.toNat).toNat) = some p.2 := by
  decide

theorem becomes_skipEscape_short {letter c : Char} (h : (letter, c) ∈ shortEscapes) :
    Becomes Any skipEscape [.ofNat letter.toNat] (pure ()) := by
  obtain ⟨hu, hlookup⟩ := shortEscapes_lookup _ h
  intro place rest _
  have hnext : next? ⟨place, UInt8.ofNat letter.toNat :: rest⟩ =
      .ok (some (UInt8.ofNat letter.toNat), ⟨place.after (.ofNat letter.toNat), rest⟩) := rfl
  rw [List.singleton_append, skipEscape, bind_of_ok hnext]
  dsimp only
  rw [if_neg hu, hlookup]
  rfl

theorem becomes_skipEscape_unit (u : CodeUnit) :
    Becomes Any skipEscape ('u'.toUInt8 :: u.bytes) (pure ()) := by
  intro place rest _
  have hnext : next? ⟨place, 'u'.toUInt8 :: (u.bytes ++ rest)⟩ =
      .ok (some 'u'.toUInt8, ⟨place.after 'u'.toUInt8, u.bytes ++ rest⟩) := rfl
  rw [List.cons_append, skipEscape, bind_of_ok hnext]
  dsimp only
  rw [if_pos rfl]
  exact map_of_ok (u.consumes_hexEscape _ rest)

/-- The text is passed over inside a string, in as many rounds as it has bytes at most. -/
def PassesInside (text : List UInt8) : Prop :=
  ∃ rounds ≤ text.length, ∀ bound, Becomes Any (skipString (bound + rounds)) text (skipString bound)

theorem passesInside_nil : PassesInside [] := ⟨0, Nat.le_refl _, fun _ => .refl _ _⟩

theorem PassesInside.append {text text' : List UInt8} (h : PassesInside text)
    (h' : PassesInside text') : PassesInside (text ++ text') := by
  obtain ⟨rounds, hle, hpass⟩ := h
  obtain ⟨rounds', hle', hpass'⟩ := h'
  refine ⟨rounds' + rounds, ?_, fun bound => ?_⟩
  · rw [List.length_append]
    omega
  · rw [← Nat.add_assoc]
    exact (hpass (bound + rounds')).trans (hpass' bound) fun _ _ => trivial

theorem passesInside_plain {bytes : List UInt8} (h : ∀ b ∈ bytes, IsPlain b) :
    PassesInside bytes := by
  induction bytes with
  | nil => exact passesInside_nil
  | cons b bytes ih =>
    obtain ⟨hquote, hslash, hcontrol⟩ := h b (by simp)
    have hfirst : PassesInside [b] := by
      refine ⟨1, Nat.le_refl _, fun bound place rest _ => ?_⟩
      have hpeek : peek? ⟨place, b :: rest⟩ = .ok (some b, ⟨place, b :: rest⟩) := rfl
      rw [List.singleton_append, skipString, bind_of_ok hpeek]
      dsimp only
      rw [if_neg hquote, if_neg hslash, if_neg hcontrol]
      rfl
    exact hfirst.append (ih fun b' hb' => h b' (by simp [hb']))

theorem passesInside_escape {escaped : List UInt8}
    (h : Becomes Any skipEscape escaped (pure ())) : PassesInside ('\\'.toUInt8 :: escaped) := by
  refine ⟨1, by simp, fun bound place rest _ => ?_⟩
  have hpeek : peek? ⟨place, '\\'.toUInt8 :: (escaped ++ rest)⟩ =
      .ok (some '\\'.toUInt8, ⟨place, '\\'.toUInt8 :: (escaped ++ rest)⟩) := rfl
  have hskip : skipByte ⟨place, '\\'.toUInt8 :: (escaped ++ rest)⟩ =
      .ok ((), ⟨place.after '\\'.toUInt8, escaped ++ rest⟩) := rfl
  rw [List.cons_append, skipString, bind_of_ok hpeek]
  dsimp only
  rw [if_neg (by decide), if_pos rfl, bind_of_ok hskip, bind_of_ok (h _ rest trivial)]
  rfl

theorem passesInside_pieces (ps : List Piece) : PassesInside (piecesBytes ps) := by
  induction ps with
  | nil => exact passesInside_nil
  | cons p ps ih =>
    have hfirst : PassesInside p.bytes := by
      cases p with
      | plain c quote slash control =>
        exact passesInside_plain fun b hb => isPlain_of_mem quote slash control hb
      | short letter c known => exact passesInside_escape (becomes_skipEscape_short known)
      | unit u => exact passesInside_escape (becomes_skipEscape_unit u)
    exact hfirst.append ih

/-- A string is passed over behind its opening quote. -/
theorem becomes_skipString (ps : List Piece) :
    Becomes Any (do skipString ((← bytesLeft) + 1)) (piecesBytes ps ++ [quoteMark]) (pure ()) := by
  obtain ⟨rounds, hle, hpass⟩ := passesInside_pieces ps
  refine .left fun n hn => ?_
  -- the bound leaves a round for the closing quote
  obtain ⟨bound, hbound⟩ : ∃ bound, n + 1 = (bound + 1) + rounds := by
    refine ⟨n - rounds, ?_⟩
    rw [List.length_append] at hn
    omega
  have hend : Becomes Any (skipString (bound + 1)) [quoteMark] (pure ()) := fun _ _ _ => rfl
  rw [hbound]
  exact (hpass (bound + 1)).trans hend fun _ _ => trivial

/-! ## Numbers -/

theorem isDigitByte_digitByte (d : Fin 10) : isDigitByte (digitByte d) = true := by
  revert d
  decide

theorem Digits.isDigitByte_of_mem {ds : Digits} {b : UInt8} (h : b ∈ ds.bytes) :
    isDigitByte b = true := by
  obtain ⟨d, -, rfl⟩ := List.mem_map.mp h
  exact isDigitByte_digitByte d

theorem becomes_digitRun {bytes : List UInt8} (h : ∀ b ∈ bytes, isDigitByte b = true) :
    Becomes EndsDigits digitRun bytes (pure (bytes.map fun b => b.toNat - 48)) :=
  fun place _ hrest => digitRun_append h hrest place

/-- Digits, one at least. -/
def skipDigits : Reader Unit := do
  match ← next? with
  | none => refuse .invalidNumber
  | some b => if isDigitByte b then discard digitRun else refuse .invalidNumber

def skipExponent : Reader Unit := do
  if isExponentMark (← peek?) then
    skipByte
    let sign ← peek?
    if sign = some '-'.toUInt8 || sign = some '+'.toUInt8 then skipByte
    skipDigits

/-- The fraction and the exponent of a number. -/
def skipFraction : Reader Unit := do
  if (← peek?) = some '.'.toUInt8 then
    skipByte
    if (← digitRun).isEmpty then refuseNext .invalidNumber
  skipExponent

def skipUnsigned : Reader Unit := do
  match ← next? with
  | none => refuse .invalidNumber
  | some b =>
    if !isDigitByte b then refuse .invalidNumber
    else
      if b = '0'.toUInt8 then
        if (← peek?).any isDigitByte then refuseNext .invalidNumber
      else discard digitRun
      skipFraction

theorem skipNumber_eq :
    skipNumber = (do
      if (← peek?) = some '-'.toUInt8 then skipByte
      skipUnsigned) :=
  rfl

theorem becomes_skipDigits (ds : Digits) : Becomes EndsDigits skipDigits ds.bytes (pure ()) := by
  have hrun : Becomes EndsDigits (discard digitRun) (ds.others.map digitByte) (pure ()) := by
    refine (becomes_digitRun fun b hb => ?_).map
    exact ds.isDigitByte_of_mem (List.mem_cons_of_mem _ hb)
  refine .next ?_
  dsimp only
  rw [if_pos (isDigitByte_digitByte ds.first)]
  exact hrun

theorem Digits.ne_first {b : UInt8} (hb : isDigitByte b = false) (ds : Digits) :
    some (digitByte ds.first) ≠ some b := by
  simpa using ne_of_isDigitByte (isDigitByte_digitByte ds.first) hb

theorem becomes_skipExponent (e : Option Exponent) :
    Becomes Separated skipExponent (Numeral.exponentBytes e) (pure ()) := by
  cases e with
  | none =>
    intro place rest hrest
    obtain ⟨mark, hpeek, -, hmark⟩ := peek?_separated hrest place
    show skipExponent ⟨place, rest⟩ = .ok ((), ⟨place, rest⟩)
    rw [skipExponent, bind_of_ok hpeek, hmark]
    rfl
  | some e =>
    obtain ⟨capital, sign, ds⟩ := e
    have hdigits : Becomes Separated skipDigits ds.bytes (pure ()) :=
      (becomes_skipDigits ds).mono fun _ => Separated.endsDigits
    refine .peek (fun _ _ => rfl) ?_
    rw [if_pos (by cases capital <;> rfl)]
    refine .skip ?_
    cases sign with
    | none =>
      refine .peek (b := digitByte ds.first) (fun _ _ => rfl) ?_
      rw [if_neg (by simp [ds.ne_first (b := '-'.toUInt8) rfl, ds.ne_first (b := '+'.toUInt8) rfl])]
      exact hdigits
    | some minus =>
      refine .peek (b := if minus then '-'.toUInt8 else '+'.toUInt8) ?_ ?_
      · intro rest _
        cases minus <;> rfl
      · rw [if_pos (by cases minus <;> rfl)]
        cases minus <;> exact .skip hdigits

/-- Behind the fraction comes the exponent, or no digit at all. -/
theorem endsDigits_exponentBytes (e : Option Exponent) {rest : List UInt8} (h : Separated rest) :
    EndsDigits (Numeral.exponentBytes e ++ rest) := by
  cases e with
  | none => exact h.endsDigits
  | some e =>
    obtain ⟨capital, sign, ds⟩ := e
    intro b hb
    cases capital <;> (obtain rfl := Option.some.inj hb; rfl)

theorem becomes_skipFraction (f : Option Digits) (e : Option Exponent) :
    Becomes Separated skipFraction (Numeral.fractionBytes f ++ Numeral.exponentBytes e)
      (pure ()) := by
  cases f with
  | none =>
    cases e with
    | none =>
      intro place rest hrest
      obtain ⟨mark, hpeek, hpoint, -⟩ := peek?_separated hrest place
      show skipFraction ⟨place, rest⟩ = .ok ((), ⟨place, rest⟩)
      rw [skipFraction, bind_of_ok hpeek, if_neg hpoint]
      exact becomes_skipExponent none place rest hrest
    | some e =>
      refine .peek (b := if e.capital then 'E'.toUInt8 else 'e'.toUInt8) (fun _ _ => rfl) ?_
      rw [if_neg (by cases e.capital <;> decide)]
      exact becomes_skipExponent (some e)
  | some ds =>
    have hrun := (becomes_digitRun fun b hb => ds.isDigitByte_of_mem hb).bind
      (f := fun digits => if digits.isEmpty then do
        refuseNext .invalidNumber
        skipExponent else skipExponent)
    refine .peek (b := '.'.toUInt8) (fun _ _ => rfl) ?_
    rw [if_pos rfl]
    refine .skip ?_
    exact hrun.trans (becomes_skipExponent e) fun _ hrest => endsDigits_exponentBytes e hrest

/-- Behind the digits in front of the point comes no digit. -/
theorem endsDigits_fractionBytes (f : Option Digits) (e : Option Exponent) {rest : List UInt8}
    (h : Separated rest) :
    EndsDigits (Numeral.fractionBytes f ++ (Numeral.exponentBytes e ++ rest)) := by
  cases f with
  | none => exact endsDigits_exponentBytes e h
  | some ds =>
    intro b hb
    obtain rfl := Option.some.inj hb
    rfl

theorem becomes_skipUnsigned (whole : Nat) (f : Option Digits) (e : Option Exponent) :
    Becomes Separated skipUnsigned
      (digitBytes whole ++ (Numeral.fractionBytes f ++ Numeral.exponentBytes e)) (pure ()) := by
  obtain ⟨b, more, hbytes, hb⟩ := digitBytes_cons whole
  have hmore : ∀ b ∈ more, isDigitByte b = true :=
    fun b hb => isDigitByte_of_mem (n := whole) (by simp [hbytes, hb])
  have hrest : Becomes Separated skipFraction
      (Numeral.fractionBytes f ++ Numeral.exponentBytes e) (pure ()) := becomes_skipFraction f e
  have hends : ∀ rest, Separated rest →
      EndsDigits ((Numeral.fractionBytes f ++ Numeral.exponentBytes e) ++ rest) := by
    intro rest hrest
    rw [List.append_assoc]
    exact endsDigits_fractionBytes f e hrest
  rw [hbytes, List.cons_append]
  refine .next ?_
  dsimp only
  rw [hb, if_neg (by decide)]
  by_cases hzero : b = '0'.toUInt8
  · -- a zero in front is the only digit there
    obtain rfl := eq_zero_of_digitBytes hbytes hzero
    obtain rfl : more = [] := by
      have htail := congrArg List.tail hbytes
      exact htail.symm
    rw [if_pos hzero]
    intro place rest hsep
    have hpeek : peek? ⟨place, [] ++ (Numeral.fractionBytes f ++ Numeral.exponentBytes e) ++ rest⟩ =
        .ok (_, ⟨place, _⟩) := rfl
    have hnone : (List.head? ([] ++ (Numeral.fractionBytes f ++ Numeral.exponentBytes e) ++
        rest)).any isDigitByte = false := (hends rest hsep).any_head?
    rw [bind_of_ok hpeek, hnone, if_neg (by decide)]
    exact hrest place rest hsep
  · rw [if_neg hzero]
    exact ((becomes_digitRun hmore).map.bind).trans hrest hends

theorem becomes_skipNumber (n : Numeral) : Becomes Separated skipNumber n.bytes (pure ()) := by
  obtain ⟨negative, whole, f, e⟩ := n
  have hunsigned := becomes_skipUnsigned whole f e
  rw [skipNumber_eq]
  cases negative with
  | true =>
    refine .peek (b := '-'.toUInt8) (fun _ _ => rfl) ?_
    rw [if_pos rfl]
    exact .skip hunsigned
  | false =>
    obtain ⟨b, more, hbytes, hb⟩ := digitBytes_cons whole
    refine .peek (b := b) (fun rest _ => ?_) ?_
    · simp [Numeral.bytes, hbytes, Begins]
    · rw [if_neg (by simpa using ne_of_isDigitByte hb (by decide))]
      exact hunsigned

/-! ## Values -/

theorem ne_of_startsNumber {b b' : UInt8} (h : startsNumber b = true)
    (h' : startsNumber b' = false) : b ≠ b' := by
  rintro rfl
  rw [h] at h'
  contradiction

/-- The value is passed over behind any blanks, in twice as many rounds as it has bytes at
most. -/
def PassesOver (w : Written) : Prop :=
  ∃ rounds ≤ 2 * w.bytes.length, ∀ bound frames (gap : List UInt8),
    (∀ b ∈ gap, isBlankByte b = true) →
      Becomes Separated (skipValueFrom (bound + rounds) frames) (gap ++ w.bytes)
        (skipRestFrom bound frames)

theorem becomes_colon (past : Gap) : Becomes Any colon (past.bytes ++ [':'.toUInt8]) (pure ()) := by
  refine .token (fun _ => Gap.isBlankByte_of_mem) (by decide) (fun _ _ => rfl) ?_
  dsimp only
  rw [if_pos rfl]
  exact becomes_skipByte _

theorem becomes_skipKey {gap : List UInt8} (hgap : ∀ b ∈ gap, isBlankByte b = true)
    (key : List Piece) (past : Gap) :
    Becomes Any skipKey (gap ++ (quoted key ++ (past.bytes ++ [':'.toUInt8]))) (pure ()) := by
  rw [skipKey]
  refine .token hgap (b := quoteMark) (by decide) (fun _ _ => rfl) ?_
  dsimp only
  rw [if_pos rfl]
  refine .skip ?_
  rw [← bind_assoc]
  exact (becomes_skipString key).bind.trans (becomes_colon past) fun _ _ => trivial

/-- A word, number or string takes one round. -/
theorem passesOver_scalar {w : Written}
    (h : ∀ bound frames (gap : List UInt8), (∀ b ∈ gap, isBlankByte b = true) →
      Becomes Separated (skipValueFrom (bound + 1) frames) (gap ++ w.bytes)
        (skipRestFrom bound frames)) : PassesOver w := by
  obtain ⟨b, more, hbytes, -⟩ := w.exists_bytes
  refine ⟨1, ?_, h⟩
  rw [hbytes, List.length_cons]
  omega

theorem passesOver_null : PassesOver .null := by
  refine passesOver_scalar fun bound frames gap hgap => ?_
  have hword : Becomes Any nullWord (Utf8.encode "null".toList) (pure ()) := fun _ _ _ => rfl
  rw [skipValueFrom]
  refine .value hgap (b := 'n'.toUInt8) (by decide) (fun _ _ => rfl) ?_
  rw [if_neg (by decide), if_neg (by decide), if_pos rfl]
  exact hword.bind.mono fun _ _ => trivial

theorem passesOver_boolean (b : Bool) : PassesOver (.boolean b) := by
  refine passesOver_scalar fun bound frames gap hgap => ?_
  rw [skipValueFrom]
  cases b with
  | true =>
    have hword : Becomes Any trueWord (Utf8.encode "true".toList) (pure ()) := fun _ _ _ => rfl
    refine .value hgap (b := 't'.toUInt8) (by decide) (fun _ _ => rfl) ?_
    rw [if_neg (by decide), if_neg (by decide), if_neg (by decide), if_pos rfl]
    exact hword.bind.mono fun _ _ => trivial
  | false =>
    have hword : Becomes Any falseWord (Utf8.encode "false".toList) (pure ()) := fun _ _ _ => rfl
    refine .value hgap (b := 'f'.toUInt8) (by decide) (fun _ _ => rfl) ?_
    rw [if_neg (by decide), if_neg (by decide), if_neg (by decide), if_neg (by decide), if_pos rfl]
    exact hword.bind.mono fun _ _ => trivial

theorem passesOver_number (n : Numeral) : PassesOver (.number n) := by
  refine passesOver_scalar fun bound frames gap hgap => ?_
  obtain ⟨b, more, hbytes, hb⟩ := n.exists_bytes
  rw [skipValueFrom]
  refine .value hgap (leadsValue_of_startsNumber hb).1 (fun rest _ => ?_) ?_
  · rw [Written.bytes, hbytes]
    rfl
  · rw [if_neg (ne_of_startsNumber hb (by decide)), if_neg (ne_of_startsNumber hb (by decide)),
      if_neg (ne_of_startsNumber hb (by decide)), if_neg (ne_of_startsNumber hb (by decide)),
      if_neg (ne_of_startsNumber hb (by decide)), if_pos hb]
    exact (becomes_skipNumber n).bind

theorem passesOver_string (ps : List Piece) : PassesOver (.string ps) := by
  refine passesOver_scalar fun bound frames gap hgap => ?_
  rw [skipValueFrom]
  refine .value hgap (b := quoteMark) (by decide) (fun _ _ => rfl) ?_
  rw [if_neg (by decide), if_neg (by decide), if_neg (by decide), if_neg (by decide),
    if_neg (by decide), if_neg (by decide), if_pos rfl]
  refine .skip ?_
  rw [← bind_assoc]
  exact (becomes_skipString ps).bind.mono fun _ _ => trivial

theorem isBlankByte_of_mem_append {g g' : Gap} {b : UInt8} (h : b ∈ g.bytes ++ g'.bytes) :
    isBlankByte b = true := by
  rcases List.mem_append.mp h with h | h
  · exact g.isBlankByte_of_mem h
  · exact g'.isBlankByte_of_mem h

theorem passesOver_emptyArray (last : Gap) : PassesOver (.array [] last) := by
  refine passesOver_scalar fun bound frames gap hgap => ?_
  rw [skipValueFrom]
  refine .value hgap (b := openBracket) (by decide) (fun _ _ => rfl) ?_
  rw [if_pos rfl]
  refine .skip ?_
  show Becomes _ _ (last.bytes ++ [closeBracket]) _
  refine .token (fun _ => Gap.isBlankByte_of_mem) (by decide) (fun _ _ => rfl) ?_
  dsimp only
  rw [if_pos rfl]
  exact .skip (.refl _ _)

theorem passesOver_emptyObject (last : Gap) : PassesOver (.object [] last) := by
  refine passesOver_scalar fun bound frames gap hgap => ?_
  rw [skipValueFrom]
  refine .value hgap (b := openBrace) (by decide) (fun _ _ => rfl) ?_
  rw [if_neg (by decide), if_pos rfl]
  refine .skip ?_
  show Becomes _ _ (last.bytes ++ [closeBrace]) _
  refine .token (fun _ => Gap.isBlankByte_of_mem) (by decide) (fun _ _ => rfl) ?_
  dsimp only
  rw [if_pos rfl]
  exact .skip (.refl _ _)

/-- What follows a value inside brackets is passed over, their end included. -/
def PassesRest (inObject : Bool) (text : List UInt8) : Prop :=
  ∃ rounds ≤ 2 * text.length, ∀ bound frames,
    Becomes Any (skipRestFrom (bound + rounds) (inObject :: frames)) text
      (skipRestFrom bound frames)

theorem passesRest_end (inObject : Bool) (last : Gap) :
    PassesRest inObject (last.bytes ++ [if inObject then closeBrace else closeBracket]) := by
  refine ⟨1, ?_, fun bound frames => ?_⟩
  · rw [List.length_append, List.length_singleton]
    omega
  · rw [skipRestFrom]
    refine .token (fun _ => Gap.isBlankByte_of_mem) (by cases inObject <;> decide)
      (fun _ _ => rfl) ?_
    dsimp only
    rw [if_neg (by cases inObject <;> decide), if_pos rfl]
    exact .skip (.refl _ _)

section Nested

variable {w : Written} {items : List (Item Written)} {members : List (Member Written)} {last : Gap}

theorem passesOver_array (before behind : Gap) (hw : PassesOver w)
    (hrest : PassesRest false (itemsBytes false items ++ (last.bytes ++ [closeBracket]))) :
    PassesOver (.array (⟨before, behind, w⟩ :: items) last) := by
  obtain ⟨rounds, hle, hpass⟩ := hw
  obtain ⟨rounds', hle', hpass'⟩ := hrest
  obtain ⟨b, more, hbytes, hblank, hclose⟩ := w.exists_bytes
  refine ⟨rounds' + rounds + 1, ?_, fun bound frames gap hgap => ?_⟩
  · simp only [Written.bytes, itemsBytes, List.length_cons, List.length_append] at hle' ⊢
    omega
  have hitems : itemsBytes true (⟨before, behind, w⟩ :: items) ++ (last.bytes ++ [closeBracket]) =
      (before.bytes ++ behind.bytes) ++
        (w.bytes ++ (itemsBytes false items ++ (last.bytes ++ [closeBracket]))) := by
    simp [itemsBytes, separator]
  rw [← Nat.add_assoc, ← Nat.add_assoc, skipValueFrom]
  refine .value hgap (b := openBracket) (by decide) (fun _ _ => rfl) ?_
  rw [if_pos rfl]
  refine .skip ?_
  rw [hitems]
  refine .token (fun _ => isBlankByte_of_mem_append) hblank (fun rest _ => ?_) ?_
  · rw [hbytes]
    rfl
  dsimp only
  rw [if_neg hclose]
  have hvalue := hpass (bound + rounds') (false :: frames) [] (by simp)
  refine hvalue.trans ((hpass' bound frames).mono fun _ _ => trivial) fun rest _ => ?_
  rw [List.append_assoc, List.append_assoc]
  exact separated_itemsBytes items last rest

theorem passesRest_item (before behind : Gap) (hw : PassesOver w)
    (hrest : PassesRest false (itemsBytes false items ++ (last.bytes ++ [closeBracket]))) :
    PassesRest false
      (itemsBytes false (⟨before, behind, w⟩ :: items) ++ (last.bytes ++ [closeBracket])) := by
  obtain ⟨rounds, hle, hpass⟩ := hw
  obtain ⟨rounds', hle', hpass'⟩ := hrest
  have hitems : itemsBytes false (⟨before, behind, w⟩ :: items) ++ (last.bytes ++ [closeBracket]) =
      before.bytes ++ (comma :: (behind.bytes ++ w.bytes ++
        (itemsBytes false items ++ (last.bytes ++ [closeBracket])))) := by
    simp [itemsBytes, separator]
  rw [hitems]
  refine ⟨rounds' + rounds + 1, ?_, fun bound frames => ?_⟩
  · simp only [List.length_append, List.length_cons] at hle' ⊢
    omega
  rw [← Nat.add_assoc, ← Nat.add_assoc, skipRestFrom]
  refine .token (fun _ => Gap.isBlankByte_of_mem) (b := comma) (by decide) (fun _ _ => rfl) ?_
  dsimp only
  rw [if_pos rfl]
  refine .skip ?_
  rw [if_neg (by decide)]
  have hvalue := hpass (bound + rounds') (false :: frames) behind.bytes
    fun _ => Gap.isBlankByte_of_mem
  refine hvalue.trans (hpass' bound frames) fun rest _ => ?_
  rw [List.append_assoc, List.append_assoc]
  exact separated_itemsBytes items last rest

theorem passesOver_object (before behind : Gap) (key : List Piece) (past lead : Gap)
    (hw : PassesOver w)
    (hrest : PassesRest true (membersBytes false members ++ (last.bytes ++ [closeBrace]))) :
    PassesOver (.object (⟨before, behind, key, past, lead, w⟩ :: members) last) := by
  obtain ⟨rounds, hle, hpass⟩ := hw
  obtain ⟨rounds', hle', hpass'⟩ := hrest
  refine ⟨rounds' + rounds + 1, ?_, fun bound frames gap hgap => ?_⟩
  · simp only [Written.bytes, membersBytes, List.length_cons, List.length_append] at hle' ⊢
    omega
  have hmembers : membersBytes true (⟨before, behind, key, past, lead, w⟩ :: members) ++
      (last.bytes ++ [closeBrace]) = (before.bytes ++ behind.bytes) ++
        (([] ++ (quoted key ++ (past.bytes ++ [':'.toUInt8]))) ++ ((lead.bytes ++ w.bytes) ++
          (membersBytes false members ++ (last.bytes ++ [closeBrace])))) := by
    simp [membersBytes, separator]
  rw [← Nat.add_assoc, ← Nat.add_assoc, skipValueFrom]
  refine .value hgap (b := openBrace) (by decide) (fun _ _ => rfl) ?_
  rw [if_neg (by decide), if_pos rfl]
  refine .skip ?_
  rw [hmembers]
  refine .token (fun _ => isBlankByte_of_mem_append) (b := quoteMark) (by decide)
    (fun _ _ => rfl) ?_
  dsimp only
  rw [if_neg (by decide)]
  have hnone : ∀ b ∈ ([] : List UInt8), isBlankByte b = true := by simp
  have hvalue := hpass (bound + rounds') (true :: frames) lead.bytes
    fun _ => Gap.isBlankByte_of_mem
  refine (becomes_skipKey hnone key past).bind.trans
    (hvalue.trans ((hpass' bound frames).mono fun _ _ => trivial) fun rest _ => ?_)
    fun _ _ => trivial
  rw [List.append_assoc, List.append_assoc]
  exact separated_membersBytes members last rest

theorem passesRest_member (before behind : Gap) (key : List Piece) (past lead : Gap)
    (hw : PassesOver w)
    (hrest : PassesRest true (membersBytes false members ++ (last.bytes ++ [closeBrace]))) :
    PassesRest true (membersBytes false (⟨before, behind, key, past, lead, w⟩ :: members) ++
      (last.bytes ++ [closeBrace])) := by
  obtain ⟨rounds, hle, hpass⟩ := hw
  obtain ⟨rounds', hle', hpass'⟩ := hrest
  have hmembers : membersBytes false (⟨before, behind, key, past, lead, w⟩ :: members) ++
      (last.bytes ++ [closeBrace]) = before.bytes ++ (comma ::
        ((behind.bytes ++ (quoted key ++ (past.bytes ++ [':'.toUInt8]))) ++
          ((lead.bytes ++ w.bytes) ++
            (membersBytes false members ++ (last.bytes ++ [closeBrace]))))) := by
    simp [membersBytes, separator]
  rw [hmembers]
  refine ⟨rounds' + rounds + 1, ?_, fun bound frames => ?_⟩
  · simp only [List.length_append, List.length_cons] at hle' ⊢
    omega
  rw [← Nat.add_assoc, ← Nat.add_assoc, skipRestFrom]
  refine .token (fun _ => Gap.isBlankByte_of_mem) (b := comma) (by decide) (fun _ _ => rfl) ?_
  dsimp only
  rw [if_pos rfl]
  refine .skip ?_
  rw [if_pos rfl]
  have hvalue := hpass (bound + rounds') (true :: frames) lead.bytes
    fun _ => Gap.isBlankByte_of_mem
  refine (becomes_skipKey (fun _ => behind.isBlankByte_of_mem) key past).bind.trans
    (hvalue.trans (hpass' bound frames) fun rest _ => ?_) fun _ _ => trivial
  rw [List.append_assoc, List.append_assoc]
  exact separated_membersBytes members last rest

end Nested

mutual

/-- Every value is passed over. -/
theorem passesOver : (w : Written) → PassesOver w
  | .null => passesOver_null
  | .boolean b => passesOver_boolean b
  | .number n => passesOver_number n
  | .string ps => passesOver_string ps
  | .array [] last => passesOver_emptyArray last
  | .array (⟨before, behind, w⟩ :: items) last =>
    passesOver_array before behind (passesOver w) (passesItems items last)
  | .object [] last => passesOver_emptyObject last
  | .object (⟨before, behind, key, past, lead, w⟩ :: members) last =>
    passesOver_object before behind key past lead (passesOver w) (passesMembers members last)

theorem passesItems : (items : List (Item Written)) → (last : Gap) →
    PassesRest false (itemsBytes false items ++ (last.bytes ++ [closeBracket]))
  | [], last => passesRest_end false last
  | ⟨before, behind, w⟩ :: items, last =>
    passesRest_item before behind (passesOver w) (passesItems items last)

theorem passesMembers : (members : List (Member Written)) → (last : Gap) →
    PassesRest true (membersBytes false members ++ (last.bytes ++ [closeBrace]))
  | [], last => passesRest_end true last
  | ⟨before, behind, key, past, lead, w⟩ :: members, last =>
    passesRest_member before behind key past lead (passesOver w) (passesMembers members last)

end

end EdgeRender.Json
