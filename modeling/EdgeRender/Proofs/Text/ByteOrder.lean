import EdgeRender.Proofs.Text.Utf8

/-! # The order of texts is that of their bytes

Texts are compared character by character. Their bytes are in the same order: the bytes of a
character come before those of a later one, whatever follows either.
-/
namespace EdgeRender.Text.Utf8

/-! ## Characters -/

/-- Numbers are compared by all digits but the last in base 64, and then by the last. -/
theorem lt_or_eq_and_iff (a b : Nat) (p : Prop) :
    a < b ∨ a = b ∧ p ↔
      a / 64 < b / 64 ∨ a / 64 = b / 64 ∧ (a % 64 < b % 64 ∨ a % 64 = b % 64 ∧ p) := by
  by_cases h : a = b
  · simp [h]
  · have hdigits : a / 64 = b / 64 → a % 64 ≠ b % 64 := by omega
    constructor
    · intro hlt
      simp only [h, false_and, or_false] at hlt
      omega
    · rintro (hlt | ⟨heq, hlt | ⟨heq', -⟩⟩)
      · omega
      · omega
      · exact absurd heq' (hdigits heq)

/-- Four bytes are in the order of what they spell. -/
theorem lt_of_four {n m : Nat} (h : n < m) (hm : m < 0x110000) (p : Prop) :
    n / 262144 % 8 < m / 262144 % 8 ∨ n / 262144 % 8 = m / 262144 % 8 ∧
      (n / 4096 % 64 < m / 4096 % 64 ∨ n / 4096 % 64 = m / 4096 % 64 ∧
        (n / 64 % 64 < m / 64 % 64 ∨ n / 64 % 64 = m / 64 % 64 ∧
          (n % 64 < m % 64 ∨ n % 64 = m % 64 ∧ p))) := by
  have hhigh : ∀ k, k < 0x110000 → k / 262144 % 8 = k / 64 / 64 / 64 := by
    intro k hk
    omega
  have hmiddle : ∀ k, k / 4096 = k / 64 / 64 := by
    intro k
    omega
  rw [hhigh n (by omega), hhigh m hm, hmiddle n, hmiddle m, ← lt_or_eq_and_iff,
    ← lt_or_eq_and_iff, ← lt_or_eq_and_iff]
  exact .inl h

theorem ofNat_lt_ofNat_iff {a b : Nat} (ha : a < 256) (hb : b < 256) :
    UInt8.ofNat a < UInt8.ofNat b ↔ a < b := by
  rw [UInt8.lt_iff_toNat_lt, UInt8.toNat_ofNat_of_lt' ha, UInt8.toNat_ofNat_of_lt' hb]

theorem ofNat_eq_ofNat_iff {a b : Nat} (ha : a < 256) (hb : b < 256) :
    UInt8.ofNat a = UInt8.ofNat b ↔ a = b := by
  rw [← UInt8.toNat_inj, UInt8.toNat_ofNat_of_lt' ha, UInt8.toNat_ofNat_of_lt' hb]

theorem utf8EncodeChar_append_lt {c d : Char} (h : c < d) (x y : List UInt8) :
    String.utf8EncodeChar c ++ x < String.utf8EncodeChar d ++ y := by
  have hlt : c.toNat < d.toNat := h
  have hvalid : d.toNat < 0x110000 := by
    have hscalar : d.toNat < 0xD800 ∨ (0xDFFF < d.toNat ∧ d.toNat < 0x110000) := by
      simpa [UInt32.isValidChar, Nat.isValidChar] using d.valid
    omega
  rw [utf8EncodeChar_eq, utf8EncodeChar_eq]
  generalize c.toNat = n at *
  generalize d.toNat = m at *
  by_cases hfour : n < 0x10000
  · -- as many bytes, or more: then the first is greater
    split_ifs
    all_goals
      simp (disch := omega) only [List.cons_append, List.nil_append, List.cons_lt_cons_iff,
        ofNat_lt_ofNat_iff, ofNat_eq_ofNat_iff, Nat.add_lt_add_iff_right, Nat.add_right_cancel_iff]
      omega
  · simp (disch := omega) only [if_neg, List.cons_append, List.nil_append, List.cons_lt_cons_iff,
      ofNat_lt_ofNat_iff, ofNat_eq_ofNat_iff, Nat.add_lt_add_iff_right, Nat.add_right_cancel_iff]
    exact lt_of_four hlt hvalid _

/-! ## Texts -/

theorem encode_lt_encode {s t : List Char} (h : s < t) : encode s < encode t := by
  induction h with
  | @nil c t =>
    obtain ⟨b, more, hbytes, -⟩ := head_utf8EncodeChar c (encode t)
    rw [encode_cons, hbytes]
    exact List.nil_lt_cons _ _
  | @rel c s d t hcd =>
    rw [encode_cons, encode_cons]
    exact utf8EncodeChar_append_lt hcd _ _
  | @cons c s t _ ih =>
    rw [encode_cons, encode_cons]
    exact List.append_left_lt ih

end EdgeRender.Text.Utf8
