import EdgeRender.Proofs.Json.Passing

/-! # What strings spell

A string is read as the characters that its pieces spell, and one with half a pair of units alone
is refused.
-/
namespace EdgeRender.Json

open EdgeRender.Text

/-- The character of a unit that is no half of a pair. -/
theorem CodeUnit.consumes_escape {u : CodeUnit} (hhigh : u.isHigh = false)
    (hlow : u.isLow = false) :
    Consumes escape ('u'.toUInt8 :: u.bytes) (.ofNat u.value) := by
  intro place rest
  have hnext : next? ⟨place, 'u'.toUInt8 :: (u.bytes ++ rest)⟩ =
      .ok (some 'u'.toUInt8, ⟨place.after 'u'.toUInt8, u.bytes ++ rest⟩) := rfl
  simp only [isHigh, isLow, Bool.and_eq_false_iff, decide_eq_false_iff_not] at hhigh hlow
  rw [List.cons_append, escape, bind_of_ok hnext]
  dsimp only
  rw [if_pos rfl, unicodeEscape, bind_of_ok (u.consumes_hexEscape _ rest), if_neg (by omega),
    if_pos (by omega)]
  rfl

theorem CodeUnit.isHigh_iff (u : CodeUnit) :
    u.isHigh = true ↔ 0xD800 ≤ u.value ∧ u.value ≤ 0xDBFF := by
  simp [isHigh]

theorem CodeUnit.isLow_iff (u : CodeUnit) :
    u.isLow = true ↔ 0xDC00 ≤ u.value ∧ u.value ≤ 0xDFFF := by
  simp [isLow]

/-- The second half of a pair, behind the first. -/
def lowHalf (high : Nat) : Reader Char := do
  match ← next? with
  | none => refuse .endOfString
  | some b =>
    if b ≠ '\\'.toUInt8 then refuse .unexpectedEndOfHexEscape
    else
      match ← next? with
      | none => refuse .endOfString
      | some b =>
        if b ≠ 'u'.toUInt8 then refuse .unexpectedEndOfHexEscape
        else
          let low ← hexEscape
          if low < 0xDC00 ∨ 0xDFFF < low then refuse .loneSurrogate
          else pure (.ofNat (0x10000 + (high - 0xD800) * 0x400 + (low - 0xDC00)))

theorem CodeUnit.becomes_lowHalf {u : CodeUnit} (h : u.isHigh = true) :
    Becomes Any escape ('u'.toUInt8 :: u.bytes) (lowHalf u.value) := by
  rw [isHigh_iff] at h
  refine .next ?_
  dsimp only
  rw [if_pos rfl, unicodeEscape]
  intro place rest _
  rw [bind_of_ok (u.consumes_hexEscape place rest), if_neg (by omega), if_neg (by omega)]
  rfl

theorem CodeUnit.consumes_pair {u low : CodeUnit} (hhigh : u.isHigh = true)
    (hlow : low.isLow = true) :
    Consumes escape (('u'.toUInt8 :: u.bytes) ++ '\\'.toUInt8 :: 'u'.toUInt8 :: low.bytes)
      (u.paired low) := by
  rw [isLow_iff] at hlow
  have hsecond : Becomes Any (lowHalf u.value) ('\\'.toUInt8 :: 'u'.toUInt8 :: low.bytes)
      (pure (u.paired low)) := by
    refine .next ?_
    dsimp only
    rw [if_neg (by decide)]
    refine .next ?_
    dsimp only
    rw [if_neg (by decide)]
    intro place rest _
    rw [bind_of_ok (low.consumes_hexEscape place rest), if_neg (by omega)]
    rfl
  exact fun place rest =>
    (becomes_lowHalf hhigh).trans hsecond (fun _ _ => trivial) place rest trivial

/-- What pieces spell is read. -/
theorem spells_pieces {ps : List Piece} {s : List Char} (h : spelled? ps = some s) :
    Spells (piecesBytes ps) (Utf8.encode s) := by
  fun_induction spelled? ps generalizing s with
  | case1 =>
    obtain rfl := Option.some.inj h
    exact spells_nil
  | case2 c quote slash control ps ih =>
    obtain ⟨s, hs, rfl⟩ := Option.map_eq_some_iff.mp h
    exact (spells_plain fun b hb => isPlain_of_mem quote slash control hb).append (ih hs)
  | case3 letter c known ps ih =>
    obtain ⟨s, hs, rfl⟩ := Option.map_eq_some_iff.mp h
    obtain ⟨hu, hlookup⟩ := shortEscapes_lookup _ known
    exact (spells_escape (consumes_short hu hlookup)).append (ih hs)
  | case4 u hhigh low ps hlow ih =>
    obtain ⟨s, hs, rfl⟩ := Option.map_eq_some_iff.mp h
    have hpair := (spells_escape (CodeUnit.consumes_pair hhigh hlow)).append (ih hs)
    simpa [piecesBytes, Piece.bytes, Utf8.encode_cons] using hpair
  | case5 | case6 | case7 => cases h
  | case8 u ps hhigh hlow ih =>
    obtain ⟨s, hs, rfl⟩ := Option.map_eq_some_iff.mp h
    have hunit := CodeUnit.consumes_escape (by simpa using hhigh) (by simpa using hlow)
    exact (spells_escape hunit).append (ih hs)

theorem stops_lowHalf_of_ne (high : Nat) {b : UInt8} (h : b ≠ '\\'.toUInt8) (text : List UInt8) :
    Stops Any (lowHalf high) (b :: text) := by
  refine .next ?_
  dsimp only
  rw [if_pos h]
  exact (alwaysStops_refuse _).stops _ _

theorem stops_lowHalf_escape (high : Nat) {b : UInt8} (h : b ≠ 'u'.toUInt8) (text : List UInt8) :
    Stops Any (lowHalf high) ('\\'.toUInt8 :: b :: text) := by
  refine .next ?_
  dsimp only
  rw [if_neg (by decide)]
  refine .next ?_
  dsimp only
  rw [if_pos h]
  exact (alwaysStops_refuse _).stops _ _

theorem stops_lowHalf_unit (high : Nat) {u : CodeUnit} (h : u.isLow = false) (text : List UInt8) :
    Stops Any (lowHalf high) ('\\'.toUInt8 :: 'u'.toUInt8 :: (u.bytes ++ text)) := by
  rw [← Bool.not_eq_true, CodeUnit.isLow_iff] at h
  refine .next ?_
  dsimp only
  rw [if_neg (by decide)]
  refine .next ?_
  dsimp only
  rw [if_neg (by decide)]
  refine u.consumes_hexEscape.becomes.bind.stops ?_ fun _ _ => trivial
  rw [if_pos (by omega)]
  exact (alwaysStops_refuse _).stops _ _

/-- The first half of a pair needs a second. -/
theorem stops_lowHalf {high : Nat} {ps : List Piece}
    (h : ∀ low ps', ps = .unit low :: ps' → low.isLow = false) :
    Stops Any (lowHalf high) (piecesBytes ps ++ [quoteMark]) := by
  cases ps with
  | nil => exact stops_lowHalf_of_ne high (by decide) []
  | cons p ps =>
    cases p with
    | plain c quote slash control =>
      obtain ⟨b, more, hbytes⟩ := List.exists_cons_of_ne_nil (String.utf8EncodeChar_ne_nil (c := c))
      have hslash : b ≠ '\\'.toUInt8 :=
        (isPlain_of_mem quote slash control (b := b) (by simp [hbytes])).2.1
      simpa [piecesBytes, Piece.bytes, hbytes] using stops_lowHalf_of_ne high hslash _
    | short letter c known =>
      exact stops_lowHalf_escape high (shortEscapes_lookup _ known).1 _
    | unit u =>
      simpa [piecesBytes, Piece.bytes] using stops_lowHalf_unit high (h u ps rfl) _

/-- The reader of a string stops at the text. -/
def NeverSpells (text : List UInt8) : Prop :=
  ∀ bound read, text.length ≤ bound → Stops Any (stringBytes bound read) text

theorem Spells.neverSpells {text bytes text' : List UInt8} (h : Spells text bytes)
    (h' : NeverSpells text') : NeverSpells (text ++ text') := by
  obtain ⟨rounds, hle, hread⟩ := h
  intro bound read hbound place rest _
  rw [List.length_append] at hbound
  obtain ⟨left, rfl⟩ : ∃ left, bound = left + rounds := ⟨bound - rounds, by omega⟩
  rw [List.append_assoc, hread]
  exact h' left _ (by omega) _ rest trivial

theorem neverSpells_escape {escaped : List UInt8} (h : Stops Any escape escaped) :
    NeverSpells ('\\'.toUInt8 :: escaped) := by
  intro bound read hbound
  obtain ⟨bound, rfl⟩ := Nat.exists_eq_add_one_of_ne_zero (Nat.ne_of_gt (Nat.zero_lt_of_lt hbound))
  intro place rest _
  have hpeek : peek? ⟨place, '\\'.toUInt8 :: (escaped ++ rest)⟩ =
      .ok (some '\\'.toUInt8, ⟨place, '\\'.toUInt8 :: (escaped ++ rest)⟩) := rfl
  have hskip : skipByte ⟨place, '\\'.toUInt8 :: (escaped ++ rest)⟩ =
      .ok ((), ⟨place.after '\\'.toUInt8, escaped ++ rest⟩) := rfl
  rw [List.cons_append, stringBytes, bind_of_ok hpeek]
  dsimp only
  rw [if_neg (by decide), bind_of_ok hskip, if_pos rfl]
  exact error_bind (h _ rest trivial)

theorem neverSpells_high {u : CodeUnit} {ps : List Piece} (hhigh : u.isHigh = true)
    (h : ∀ low ps', ps = .unit low :: ps' → low.isLow = false) :
    NeverSpells (piecesBytes (.unit u :: ps) ++ [quoteMark]) := by
  have hstops := (CodeUnit.becomes_lowHalf hhigh).stops (stops_lowHalf h) fun _ _ => trivial
  simpa [piecesBytes, Piece.bytes] using neverSpells_escape hstops

theorem neverSpells_low {u : CodeUnit} (hlow : u.isLow = true) (text : List UInt8) :
    NeverSpells ('\\'.toUInt8 :: 'u'.toUInt8 :: (u.bytes ++ text)) := by
  rw [CodeUnit.isLow_iff] at hlow
  refine neverSpells_escape (.next ?_)
  dsimp only
  rw [if_pos rfl, unicodeEscape]
  refine u.consumes_hexEscape.becomes.bind.stops ?_ fun _ _ => trivial
  rw [if_pos hlow]
  exact (alwaysStops_refuse _).stops _ _

/-- Pieces that spell nothing are refused. -/
theorem neverSpells_pieces {ps : List Piece} (h : spelled? ps = none) :
    NeverSpells (piecesBytes ps ++ [quoteMark]) := by
  fun_induction spelled? ps with
  | case1 => cases h
  | case2 c quote slash control ps ih =>
    have hplain := spells_plain fun b hb => isPlain_of_mem quote slash control (b := b) hb
    simpa [piecesBytes, Piece.bytes] using hplain.neverSpells (ih (by simpa using h))
  | case3 letter c known ps ih =>
    obtain ⟨hu, hlookup⟩ := shortEscapes_lookup _ known
    exact (spells_escape (consumes_short hu hlookup)).neverSpells (ih (by simpa using h))
  | case4 u hhigh low ps hlow ih =>
    have hpair := spells_escape (CodeUnit.consumes_pair hhigh hlow)
    simpa [piecesBytes, Piece.bytes] using hpair.neverSpells (ih (by simpa using h))
  | case5 u hhigh low ps hlow =>
    refine neverSpells_high hhigh fun low' ps' heq => ?_
    obtain ⟨rfl, rfl⟩ := Piece.unit.inj (List.cons.inj heq).1, (List.cons.inj heq).2
    simpa using hlow
  | case6 u ps hhigh hother =>
    refine neverSpells_high hhigh fun low ps' heq => ?_
    exact absurd heq (hother low ps')
  | case7 u ps hhigh hlow =>
    simpa [piecesBytes, Piece.bytes] using neverSpells_low hlow (piecesBytes ps ++ [quoteMark])
  | case8 u ps hhigh hlow ih =>
    have hunit := spells_escape
      (CodeUnit.consumes_escape (by simpa using hhigh) (by simpa using hlow))
    exact hunit.neverSpells (ih (by simpa using h))

/-- A string is read as what it spells, behind its opening quote. -/
theorem ends_stringBody (ps : List Piece) :
    Ends Any stringBody (piecesBytes ps ++ [quoteMark]) (String.ofList <$> spelled? ps) := by
  cases h : spelled? ps with
  | some s => exact (spells_pieces h).consumes.becomes
  | none =>
    exact Stops.left fun n hn => (neverSpells_pieces h (n + 1) [] (Nat.le_succ_of_le hn)).bind _

end EdgeRender.Json
