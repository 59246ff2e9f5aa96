import EdgeRender.Text.Lines
import Mathlib.Data.List.Infix

/-! # Occurrences in a text

A needle is counted up to the first place where it stands, and then anew behind that place. A
character that the needle does not hold keeps what is in front of it apart from what is behind it.
-/
namespace EdgeRender.Text

variable {needle s : List Char}

/-! ## Places -/

theorem hasInfix_iff (needle s : List Char) : hasInfix needle s = true ↔ needle <:+: s := by
  induction s with
  | nil => rw [hasInfix, List.isEmpty_iff, List.infix_nil]
  | cons c s ih =>
    rw [hasInfix, Bool.or_eq_true, ih, List.isPrefixOf_iff_prefix, List.infix_cons_iff]

/-- In front of this needle it does not stand earlier. -/
def IsFirst (needle before after : List Char) : Prop :=
  ∀ front back, before ++ (needle ++ after) = front ++ (needle ++ back) →
    before.length ≤ front.length

theorem isFirst_nil (needle after : List Char) : IsFirst needle [] after :=
  fun _ _ _ => Nat.zero_le _

theorem isFirst_cons {c : Char} {before after : List Char} :
    IsFirst needle (c :: before) after ↔
      ¬ needle <+: c :: (before ++ (needle ++ after)) ∧ IsFirst needle before after := by
  constructor
  · intro h
    refine ⟨fun ⟨back, hback⟩ => ?_, fun front back heq => ?_⟩
    · exact absurd (h [] back hback.symm) (by simp)
    · have hcons := h (c :: front) back (by rw [List.cons_append, heq, List.cons_append])
      simpa using hcons
  · rintro ⟨hhere, hlater⟩ front back heq
    cases front with
    | nil => exact absurd ⟨back, heq.symm⟩ hhere
    | cons c' front =>
      have hrest := hlater front back (List.cons.inj heq).2
      simpa using hrest

/-- A needle that stands somewhere stands somewhere first. -/
theorem exists_isFirst (h : needle <:+: s) :
    ∃ before after, s = before ++ (needle ++ after) ∧ IsFirst needle before after := by
  induction s with
  | nil =>
    obtain rfl := List.infix_nil.mp h
    exact ⟨[], [], rfl, isFirst_nil _ _⟩
  | cons c s ih =>
    by_cases hhere : needle <+: c :: s
    · obtain ⟨after, hafter⟩ := hhere
      exact ⟨[], after, hafter.symm, isFirst_nil _ _⟩
    · obtain ⟨before, after, rfl, hfirst⟩ := ih ((List.infix_cons_iff.mp h).resolve_left hhere)
      exact ⟨c :: before, after, rfl, isFirst_cons.mpr ⟨hhere, hfirst⟩⟩

/-! ## Counting -/

/-- How often a needle occurs from left to right and without overlap. -/
inductive Counted (needle : List Char) : List Char → Nat → Prop where
  | absent {s : List Char} : ¬ needle <:+: s → Counted needle s 0
  | found {before after : List Char} {n : Nat} : IsFirst needle before after →
      Counted needle after n → Counted needle (before ++ (needle ++ after)) (n + 1)

theorem occurrencesFrom_pos_iff (needle s : List Char) :
    0 < occurrencesFrom needle 0 s ↔ needle <:+: s := by
  rw [← hasInfix_iff]
  induction s with
  | nil => cases needle <;> simp [occurrencesFrom, hasInfix]
  | cons c s ih =>
    rw [occurrencesFrom, hasInfix, Bool.or_eq_true, ← ih]
    split
    · next hhere => simp [hhere, Nat.add_comm 1]
    · next hhere => simp [hhere]

/-- What is skipped might as well not be there. -/
theorem occurrencesFrom_append (needle skipped rest : List Char) :
    occurrencesFrom needle skipped.length (skipped ++ rest) = occurrencesFrom needle 0 rest := by
  induction skipped with
  | nil => rfl
  | cons c skipped ih => rw [List.cons_append, List.length_cons, occurrencesFrom, ih]

/-- The first occurrence counts, and then those behind it. -/
theorem occurrencesFrom_first (hne : needle ≠ []) {before after : List Char}
    (h : IsFirst needle before after) :
    occurrencesFrom needle 0 (before ++ (needle ++ after)) =
      occurrencesFrom needle 0 after + 1 := by
  induction before with
  | nil =>
    obtain ⟨c, tail, rfl⟩ := List.exists_cons_of_ne_nil hne
    have hhere : (c :: tail).isPrefixOf (c :: (tail ++ after)) = true :=
      List.isPrefixOf_iff_prefix.mpr ⟨after, rfl⟩
    rw [List.nil_append, List.cons_append, occurrencesFrom, if_pos hhere, List.length_cons,
      Nat.add_sub_cancel, occurrencesFrom_append, Nat.add_comm]
  | cons c before ih =>
    obtain ⟨hhere, hfirst⟩ := isFirst_cons.mp h
    rw [List.cons_append, occurrencesFrom, if_neg (by rwa [List.isPrefixOf_iff_prefix]), ih hfirst]

/-- The scan counts a needle that is not empty. -/
theorem counted_iff (hne : needle ≠ []) {n : Nat} :
    Counted needle s n ↔ occurrencesFrom needle 0 s = n := by
  constructor
  · intro h
    induction h with
    | absent hnone => exact Nat.eq_zero_of_not_pos (mt (occurrencesFrom_pos_iff _ _).mp hnone)
    | found hfirst _ ih => rw [occurrencesFrom_first hne hfirst, ih]
  · rintro rfl
    induction hlength : s.length using Nat.strongRecOn generalizing s with
    | ind length ih =>
      by_cases hsome : needle <:+: s
      · obtain ⟨before, after, rfl, hfirst⟩ := exists_isFirst hsome
        have hshorter : after.length < length := by
          have hpos := List.length_pos_iff.mpr hne
          simp only [List.length_append] at hlength
          omega
        rw [occurrencesFrom_first hne hfirst]
        exact .found hfirst (ih _ hshorter rfl)
      · have hzero := Nat.eq_zero_of_not_pos (mt (occurrencesFrom_pos_iff needle s).mp hsome)
        rw [hzero]
        exact .absent hsome

/-- The empty needle stands before each character and at the end. -/
theorem occurrencesFrom_nil (s : List Char) : occurrencesFrom [] 0 s = s.length + 1 := by
  induction s with
  | nil => rfl
  | cons c s ih =>
    rw [occurrencesFrom, if_pos (by simp), List.length_nil, Nat.zero_sub, ih, List.length_cons,
      Nat.add_comm]

/-! ## Texts kept apart -/

section Seam

variable {sep : Char}

/-- A prefix without the character that keeps texts apart belongs to the first text. -/
theorem prefix_seam_iff (hsep : sep ∉ needle) (s rest : List Char) :
    needle <+: s ++ sep :: rest ↔ needle <+: s := by
  refine ⟨fun ⟨after, hafter⟩ => ?_, fun h => h.trans (List.prefix_append _ _)⟩
  rcases List.append_eq_append_iff.mp hafter with ⟨more, rfl, -⟩ | ⟨more, rfl, hmore⟩
  · exact List.prefix_append _ _
  · cases more with
    | nil => simp
    | cons c more =>
      obtain rfl := (List.cons.inj hmore).1
      simp at hsep

/-- Occurrences in front of the character and behind it add up. -/
theorem occurrencesFrom_seam (hsep : sep ∉ needle) {skip : Nat} (hskip : skip ≤ s.length)
    (rest : List Char) :
    occurrencesFrom needle skip (s ++ sep :: rest) =
      occurrencesFrom needle skip s + occurrencesFrom needle 0 rest := by
  -- the rest of a match that is skipped ends in front of the character
  induction s generalizing skip with
  | nil =>
    obtain rfl := Nat.le_zero.mp hskip
    have hhere := prefix_seam_iff hsep [] rest
    rw [List.nil_append, List.prefix_nil] at hhere
    rw [List.nil_append, occurrencesFrom, occurrencesFrom]
    simp only [List.isPrefixOf_iff_prefix, hhere, List.isEmpty_iff]
    split
    · next hempty => rw [hempty, List.length_nil, Nat.zero_sub]
    · rw [Nat.zero_add]
  | cons c s ih =>
    cases skip with
    | succ skip => exact ih (Nat.le_of_succ_le_succ hskip)
    | zero =>
      have hhere := prefix_seam_iff hsep (c :: s) rest
      rw [List.cons_append] at hhere ⊢
      rw [occurrencesFrom, occurrencesFrom]
      simp only [List.isPrefixOf_iff_prefix, hhere]
      split
      · next hprefix =>
        have hlength := hprefix.length_le
        rw [List.length_cons] at hlength
        rw [ih (by omega), Nat.add_assoc]
      · exact ih (Nat.zero_le _)

end Seam

end EdgeRender.Text
