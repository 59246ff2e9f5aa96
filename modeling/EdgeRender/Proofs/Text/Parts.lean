import EdgeRender.Text.Blank
import Mathlib.Data.List.Forall2
import Mathlib.Tactic.SplitIfs

/-! # Texts taken apart and put together

What is taken from the front of a text ends where something else begins. Parts that do not hold
the separator are found again when the text they are joined to is split.
-/
namespace EdgeRender.Text

section Runs

variable {α : Type} {p : α → Bool} {a b : List α}

/-- Nothing is dropped of what begins with something to keep. -/
theorem dropWhile_of_head (hb : ∀ x ∈ b.head?, p x = false) : b.dropWhile p = b := by
  cases b with
  | nil => rfl
  | cons x b => rw [List.dropWhile_cons, hb x rfl, if_neg (by decide)]

theorem dropWhile_append_of_head (ha : ∀ x ∈ a, p x = true) (hb : ∀ x ∈ b.head?, p x = false) :
    (a ++ b).dropWhile p = b := by
  rw [List.dropWhile_append_of_pos ha, dropWhile_of_head hb]

/-- What is taken ends where something else begins. -/
theorem takeWhile_append_of_head (ha : ∀ x ∈ a, p x = true) (hb : ∀ x ∈ b.head?, p x = false) :
    (a ++ b).takeWhile p = a := by
  rw [List.takeWhile_append_of_pos ha]
  cases b with
  | nil => simp
  | cons x b => simp [hb x rfl]

end Runs

variable {sep c : Char} {parts : List (List Char)} {part s t : List Char}

theorem splitAt_append (hs : sep ∉ s) (t : List Char) :
    splitAt sep (s ++ sep :: t) = s :: splitAt sep t := by
  induction s with
  | nil => simp [splitAt]
  | cons c s ih =>
    obtain ⟨hc, hs⟩ := List.ne_and_not_mem_of_not_mem_cons hs
    rw [List.cons_append, splitAt, if_neg hc.symm, ih hs]

theorem splitAt_of_not_mem (hs : sep ∉ s) : splitAt sep s = [s] := by
  induction s with
  | nil => rfl
  | cons c s ih =>
    obtain ⟨hc, hs⟩ := List.ne_and_not_mem_of_not_mem_cons hs
    rw [splitAt, if_neg hc.symm, ih hs]

/-- Joined parts are found again. -/
theorem splitAt_joinWith (hne : parts ≠ []) (h : ∀ part ∈ parts, sep ∉ part) :
    splitAt sep (joinWith [sep] parts) = parts := by
  induction parts with
  | nil => contradiction
  | cons part parts ih =>
    have hpart := h part (by simp)
    cases parts with
    | nil => exact splitAt_of_not_mem hpart
    | cons part' parts =>
      rw [joinWith, List.append_assoc, List.singleton_append, splitAt_append hpart,
        ih (by simp) fun p hp => h p (by simp [hp])]
      simp

theorem mem_joinWith (h : c ∈ joinWith [sep] parts) : c = sep ∨ ∃ part ∈ parts, c ∈ part := by
  fun_induction joinWith [sep] parts with
  | case1 => simp at h
  | case2 part => exact .inr ⟨part, by simp, h⟩
  | case3 part parts hparts ih =>
    rcases (by simpa [or_assoc] using h : _ ∨ _ ∨ _) with hpart | rfl | hrest
    · exact .inr ⟨part, by simp, hpart⟩
    · exact .inl rfl
    · rcases ih hrest with rfl | ⟨part', hmem, hc⟩
      · exact .inl rfl
      · exact .inr ⟨part', by simp [hmem], hc⟩

/-- No part of a split holds the separator, and all their characters come from the text. -/
theorem mem_of_mem_splitAt (hpart : part ∈ splitAt sep s) (hc : c ∈ part) : c ∈ s ∧ c ≠ sep := by
  induction s generalizing part with
  | nil =>
    obtain rfl : part = [] := by simpa [splitAt] using hpart
    simp at hc
  | cons c' s ih =>
    have hrest : ∀ {part}, part ∈ splitAt sep s → c ∈ part → c ∈ c' :: s ∧ c ≠ sep :=
      fun hmem hc => ⟨by simp [(ih hmem hc).1], (ih hmem hc).2⟩
    obtain ⟨first, others, hsplit⟩ := List.exists_cons_of_ne_nil (splitAt_ne_nil sep s)
    rw [splitAt, hsplit] at hpart
    rw [hsplit] at hrest
    split_ifs at hpart with hsep
    · rcases List.mem_cons.mp hpart with rfl | hmem
      · simp at hc
      · exact hrest hmem hc
    · rcases List.mem_cons.mp hpart with rfl | hmem
      · rcases List.mem_cons.mp hc with rfl | hfirst
        · exact ⟨by simp, hsep⟩
        · exact hrest (by simp) hfirst
      · exact hrest (by simp [hmem]) hc

/-- Results of all, one for each. -/
theorem mapM_eq_some_iff {f : α → Option β} {xs : List α} {ys : List β} :
    xs.mapM f = some ys ↔ List.Forall₂ (fun x y => f x = some y) xs ys := by
  induction xs generalizing ys with
  | nil => cases ys <;> simp
  | cons x xs ih =>
    rw [List.mapM_cons]
    cases ys with
    | nil => simp [Option.bind_eq_some_iff]
    | cons y ys => simp [Option.bind_eq_some_iff, ← ih]

theorem exists_of_mem_mapM {f : α → Option β} {xs : List α} {ys : List β}
    (h : xs.mapM f = some ys) {y : β} (hy : y ∈ ys) : ∃ x ∈ xs, f x = some y := by
  induction mapM_eq_some_iff.mp h with
  | nil => simp at hy
  | @cons x y' xs ys hx hrest ih =>
    rcases List.mem_cons.mp hy with rfl | hmem
    · exact ⟨x, by simp, hx⟩
    · obtain ⟨x', hx', hf⟩ := ih (mapM_eq_some_iff.mpr hrest) hmem
      exact ⟨x', by simp [hx'], hf⟩

end EdgeRender.Text
