import EdgeRender.Url.Percent
import EdgeRender.Proofs.Text.Utf8

/-! # Texts written with percent signs

What is written with percent signs is clean: all its characters are ASCII and may stand for
themselves. Writing a clean text changes nothing.
-/
namespace EdgeRender.Url

open EdgeRender.Text EdgeRender.Text.Utf8

/-- All characters are ASCII and none has to be escaped. -/
def Clean (escaped : Char → Bool) (s : List Char) : Prop :=
  ∀ c ∈ s, c.toNat < 0x80 ∧ escaped c = false

variable {escaped : Char → Bool} {s : List Char} {c : Char}

theorem percentEncode_cons (hascii : c.toNat < 0x80) (hfree : escaped c = false) (s : List Char) :
    percentEncode escaped (c :: s) = c :: percentEncode escaped s := by
  have hself : ¬ (0x80 ≤ c.val || escaped c) = true := by
    simp [hfree, UInt32.lt_iff_toNat_lt, hascii]
  rw [percentEncode, List.flatMap_cons, if_neg hself]
  rfl

theorem percentEncode_of_clean (h : Clean escaped s) : percentEncode escaped s = s := by
  induction s with
  | nil => rfl
  | cons c s ih =>
    obtain ⟨hascii, hfree⟩ := h c (by simp)
    rw [percentEncode_cons hascii hfree, ih fun c' hc' => h c' (by simp [hc'])]

/-- The characters that stand for an escaped byte. -/
def percentChars : List Char := "%0123456789ABCDEF".toList

theorem mem_encodeByte {b : UInt8} (h : c ∈ encodeByte b) : c ∈ percentChars := by
  have hall : ∀ n : Fin 16, hexDigitUpper n.val ∈ percentChars := by decide
  have hb := b.toNat_lt
  rcases (by simpa [encodeByte] using h : _ ∨ _ ∨ _) with rfl | rfl | rfl
  · decide
  · exact hall ⟨b.toNat / 16, by omega⟩
  · exact hall ⟨b.toNat % 16, by omega⟩

/-- A character of the written text stands for itself, or belongs to an escaped byte. -/
theorem mem_percentEncode (h : c ∈ percentEncode escaped s) :
    c ∈ percentChars ∨ (c ∈ s ∧ c.toNat < 0x80 ∧ escaped c = false) := by
  obtain ⟨c', hc', hmem⟩ := List.mem_flatMap.mp h
  split at hmem
  · obtain ⟨b, -, hb⟩ := List.mem_flatMap.mp hmem
    exact .inl (mem_encodeByte hb)
  · next hfree =>
    obtain rfl : c = c' := by simpa using hmem
    simp only [Bool.or_eq_true, decide_eq_true_eq, not_or, Bool.not_eq_true] at hfree
    exact .inr ⟨hc', by simpa [UInt32.le_iff_toNat_le] using hfree.1, hfree.2⟩

/-- What is written with percent signs is clean, if these may stand for themselves. -/
theorem clean_percentEncode (h : ∀ c ∈ percentChars, escaped c = false) (s : List Char) :
    Clean escaped (percentEncode escaped s) := by
  have hascii : ∀ c ∈ percentChars, c.toNat < 0x80 := forall_mem_of_all (by decide)
  intro c hc
  rcases mem_percentEncode hc with hpercent | ⟨-, hself⟩
  · exact ⟨hascii c hpercent, h c hpercent⟩
  · exact hself

theorem percentEncode_ne_nil (h : s ≠ []) : percentEncode escaped s ≠ [] := by
  obtain ⟨c, s, rfl⟩ := List.exists_cons_of_ne_nil h
  have hbytes : String.utf8EncodeChar c ≠ [] := by
    rw [← List.length_pos_iff, String.length_utf8EncodeChar]
    exact c.utf8Size_pos
  obtain ⟨b, bytes, hbytes⟩ := List.exists_cons_of_ne_nil hbytes
  rw [percentEncode, List.flatMap_cons, Utf8.encode_cons, hbytes]
  split <;> simp [encodeByte]

end EdgeRender.Url
