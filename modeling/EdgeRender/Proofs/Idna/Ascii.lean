import EdgeRender.Idna.Name
import EdgeRender.Proofs.Text.Parts
import EdgeRender.Proofs.Text.Utf8

/-! # The characters of ASCII names

The ASCII form of a domain name consists of ASCII characters that may stand in a name: encoded
labels are put together from letters, digits and hyphens.
-/
namespace EdgeRender.Idna

open EdgeRender.Text EdgeRender.Text.Utf8

/-- An ASCII character that may stand in the name of a host. -/
def IsNameChar (c : Char) : Prop := c.toNat < 0x80 ∧ isForbidden c = false

instance (c : Char) : Decidable (IsNameChar c) := inferInstanceAs (Decidable (_ ∧ _))

theorem isNameChar_dot : IsNameChar '.' := by decide

/-! ## Punycode -/

namespace Punycode

theorem isNameChar_digitOf {n : Nat} (h : n < base) : IsNameChar (digitOf n) := by
  have hall : ∀ n : Fin 36, IsNameChar (digitOf n.val) := by decide
  exact hall ⟨n, h⟩

theorem threshold_le (k bias : Nat) : 1 ≤ threshold k bias ∧ threshold k bias ≤ 26 := by
  unfold threshold tMin tMax
  split_ifs <;> omega

/-- There are rounds enough: what is left of the number shrinks in each. -/
theorem isNameChar_of_mem_writeDelta {fuel bias k q : Nat} (hfuel : q ≤ fuel) {c : Char}
    (h : c ∈ writeDelta fuel bias k q) : IsNameChar c := by
  induction fuel generalizing k q with
  | zero =>
    obtain rfl : c = digitOf q := by simpa [writeDelta] using h
    exact isNameChar_digitOf (by unfold base; omega)
  | succ fuel ih =>
    obtain ⟨hpos, hle⟩ := threshold_le k bias
    unfold writeDelta at h
    dsimp only at h
    split_ifs at h with hlast
    · obtain rfl : c = digitOf q := by simpa using h
      exact isNameChar_digitOf (by unfold base; omega)
    · have hdigit :
          threshold k bias + (q - threshold k bias) % (base - threshold k bias) < base := by
        have hmod := Nat.mod_lt (q - threshold k bias)
          (show 0 < base - threshold k bias by unfold base; omega)
        unfold base at hmod ⊢
        omega
      have hrest : (q - threshold k bias) / (base - threshold k bias) ≤ fuel :=
        Nat.le_trans (Nat.div_le_self _ _) (by omega)
      rcases List.mem_cons.mp h with rfl | hmem
      · exact isNameChar_digitOf hdigit
      · exact ih hrest hmem

theorem isNameChar_of_mem_encodePass {m basicCount : Nat} {p : Progress} {s : List Char}
    (hp : ∀ c ∈ p.out, IsNameChar c) : ∀ c ∈ (encodePass m basicCount p s).out, IsNameChar c := by
  fun_induction encodePass m basicCount p s with
  | case1 p => exact hp
  | case2 p c rest hlt ih => exact ih hp
  | case3 p c rest hlt heq ih =>
    refine ih fun c' hc' => ?_
    rcases List.mem_append.mp hc' with hout | hdelta
    · exact hp c' hout
    · exact isNameChar_of_mem_writeDelta (Nat.le_refl _) hdelta
  | case4 p c rest hlt hne ih => exact ih hp

theorem isNameChar_of_mem_encodePasses {fuel n basicCount : Nat} {p : Progress} {s : List Char}
    (hp : ∀ c ∈ p.out, IsNameChar c) : ∀ c ∈ encodePasses fuel n basicCount p s, IsNameChar c := by
  induction fuel generalizing n p with
  | zero => exact hp
  | succ fuel ih =>
    unfold encodePasses
    split
    · exact hp
    · exact ih (isNameChar_of_mem_encodePass hp)

/-- Only the ASCII characters of a text are kept as they are. -/
theorem isNameChar_of_mem_encode {s : List Char} (hs : ∀ c ∈ s, isForbidden c = false) {c : Char}
    (h : c ∈ encode s) : IsNameChar c := by
  refine isNameChar_of_mem_encodePasses ?_ c h
  have hbasic : ∀ c ∈ s.filter (·.toNat < initialCode), IsNameChar c := by
    intro c hc
    obtain ⟨hmem, hascii⟩ := List.mem_filter.mp hc
    exact ⟨of_decide_eq_true hascii, hs c hmem⟩
  intro c hc
  dsimp only at hc
  split_ifs at hc with hempty
  · simp at hc
  · rcases List.mem_append.mp hc with hmem | hhyphen
    · exact hbasic c hmem
    · obtain rfl : c = '-' := by simpa using hhyphen
      decide

end Punycode

/-! ## Names -/

theorem toNat_lt_of_isAscii {c : Char} (h : isAscii c = true) : c.toNat < 0x80 := by
  simpa [isAscii, UInt32.lt_iff_toNat_lt] using h

theorem isNameChar_of_mem_encodeLabel {label encoded : List Char}
    (hlabel : ∀ c ∈ label, isForbidden c = false) (h : encodeLabel label = some encoded) {c : Char}
    (hc : c ∈ encoded) : IsNameChar c := by
  unfold encodeLabel at h
  split_ifs at h with hascii hlong
  · obtain rfl := Option.some.inj h
    exact ⟨toNat_lt_of_isAscii (List.all_eq_true.mp hascii c hc), hlabel c hc⟩
  · obtain rfl := Option.some.inj h
    rcases List.mem_append.mp hc with hmark | hdigits
    · have hall : ∀ c ∈ encodedMark, IsNameChar c := forall_mem_of_all (by decide)
      exact hall c hmark
    · exact Punycode.isNameChar_of_mem_encode hlabel hdigits

theorem toNat_toLower_lt {c : Char} (h : c.toNat < 0x80) : c.toLower.toNat < 0x80 :=
  forall_ascii (P := fun c => c.toLower.toNat < 0x80) (by decide) h

/-- The ASCII form of a name has only characters that may stand in it. -/
theorem isNameChar_of_mem_toAscii? {name ascii : List Char} (h : toAscii? name = some ascii)
    {c : Char} (hc : c ∈ ascii) : IsNameChar c := by
  unfold toAscii? at h
  dsimp only at h
  split_ifs at h with hplain hforbidden
  · obtain rfl := Option.some.inj h
    obtain ⟨c', hc', rfl⟩ := List.mem_map.mp hc
    have hascii : isAscii c' = true :=
      List.all_eq_true.mp (Bool.and_eq_true_iff.mp hplain).1 c' hc'
    refine ⟨toNat_toLower_lt (toNat_lt_of_isAscii hascii), Bool.eq_false_iff.mpr fun hbad => ?_⟩
    exact hforbidden (List.any_eq_true.mpr ⟨_, hc, hbad⟩)
  · obtain ⟨mapped, -, h⟩ := Option.bind_eq_some_iff.mp h
    obtain ⟨labels, -, h⟩ := Option.bind_eq_some_iff.mp h
    split_ifs at h with hvalid
    obtain ⟨encoded, hencoded, rfl⟩ := Option.map_eq_some_iff.mp h
    rcases mem_joinWith hc with rfl | ⟨part, hpart, hc⟩
    · exact isNameChar_dot
    · obtain ⟨label, hlabel, hpart⟩ := exists_of_mem_mapM hencoded hpart
      have hfree : ∀ c ∈ label, isForbidden c = false := by
        intro c hc
        have hlabel := List.all_eq_true.mp hvalid label hlabel
        simp only [isValidLabel, Bool.and_eq_true, Bool.not_eq_true'] at hlabel
        exact Bool.eq_false_iff.mpr fun hbad =>
          Bool.eq_false_iff.mp hlabel.1.1 (List.any_eq_true.mpr ⟨c, hc, hbad⟩)
      exact isNameChar_of_mem_encodeLabel hfree hpart hc

end EdgeRender.Idna
