import EdgeRender.Text.Blank
import EdgeRender.Proofs.Text.Parts
import Mathlib.Data.List.TakeWhile

/-! # Trimmed texts

What is dropped at the ends of a text may be put there again: the trimmed text stays the same.
-/
namespace EdgeRender.Text

variable {p : Char → Bool} {a b s : List Char}

/-- A text that neither begins nor ends with what is dropped stays. -/
theorem trimEnds_of_ends (hfirst : ∀ c ∈ s.head?, p c = false)
    (hlast : ∀ c ∈ s.getLast?, p c = false) : trimEnds p s = s := by
  rw [trimEnds, dropWhile_of_head hfirst, dropWhile_of_head (by rwa [List.head?_reverse]),
    List.reverse_reverse]

/-- What is put to the ends and dropped there makes no difference. -/
theorem trimEnds_append (ha : ∀ c ∈ a, p c = true) (hb : ∀ c ∈ b, p c = true) (s : List Char) :
    trimEnds p (a ++ s ++ b) = trimEnds p s := by
  have hback : ∀ t : List Char, (t ++ b).reverse.dropWhile p = t.reverse.dropWhile p := by
    intro t
    rw [List.reverse_append, List.dropWhile_append_of_pos fun c hc => hb c (List.mem_reverse.mp hc)]
  rw [trimEnds, trimEnds, List.append_assoc, List.dropWhile_append_of_pos ha, List.dropWhile_append]
  split
  · next hempty =>
    have hnone : b.dropWhile p = [] := List.dropWhile_eq_nil_iff.mpr hb
    rw [List.isEmpty_iff.mp hempty, hnone]
  · rw [hback]

/-- What is dropped at the ends of a text stands there. -/
theorem exists_trimEnds (p : Char → Bool) (s : List Char) :
    ∃ a b, s = a ++ trimEnds p s ++ b ∧ (∀ c ∈ a, p c = true) ∧ ∀ c ∈ b, p c = true := by
  let rest := s.dropWhile p
  refine ⟨s.takeWhile p, (rest.reverse.takeWhile p).reverse, ?_, ?_, ?_⟩
  · have hback : rest = trimEnds p s ++ (rest.reverse.takeWhile p).reverse := by
      rw [trimEnds, ← List.reverse_append, List.takeWhile_append_dropWhile, List.reverse_reverse]
    rw [List.append_assoc, ← hback, List.takeWhile_append_dropWhile]
  · exact fun c hc => List.mem_takeWhile_imp hc
  · exact fun c hc => List.mem_takeWhile_imp (List.mem_reverse.mp hc)

theorem head?_dropWhile (p : Char → Bool) (s : List Char) :
    ∀ c ∈ (s.dropWhile p).head?, p c = false := by
  intro c hc
  have hnot := List.head?_dropWhile_not p s
  rw [hc] at hnot
  simpa using hnot

/-- A trimmed text neither begins nor ends with what is dropped. -/
theorem ends_trimEnds (p : Char → Bool) (s : List Char) :
    (∀ c ∈ (trimEnds p s).head?, p c = false) ∧ ∀ c ∈ (trimEnds p s).getLast?, p c = false := by
  constructor
  · have hfront : trimEnds p s <+: s.dropWhile p := by
      rw [← List.reverse_suffix, trimEnds, List.reverse_reverse]
      exact List.dropWhile_suffix p
    obtain ⟨rest, hrest⟩ := hfront
    intro c hc
    refine head?_dropWhile p s c ?_
    rw [← hrest, List.head?_append, hc]
    rfl
  · unfold trimEnds
    rw [List.getLast?_reverse]
    exact head?_dropWhile p _

theorem trimEnds_idem (p : Char → Bool) (s : List Char) :
    trimEnds p (trimEnds p s) = trimEnds p s :=
  trimEnds_of_ends (ends_trimEnds p s).1 (ends_trimEnds p s).2

theorem trim_idem (s : String) : trim (trim s) = trim s := by
  simp [trim, trimEnds_idem]

/-- Blanks around a text do not matter. -/
theorem trim_append {a b : String} (ha : ∀ c ∈ a.toList, isBlank c = true)
    (hb : ∀ c ∈ b.toList, isBlank c = true) (s : String) : trim (a ++ s ++ b) = trim s := by
  rw [trim, String.toList_append, String.toList_append, trimEnds_append ha hb, trim]

end EdgeRender.Text
