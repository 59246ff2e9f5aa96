import EdgeRender.Text.Hex

/-! # Digits of numbers

The digits that numbers are written with, in bases up to sixteen.
-/
namespace EdgeRender.Text

/-- A property of the digits of a number: of those of what is in front of the last one, and of
the last one. -/
theorem toDigits_induction {b : Nat} (hb : 1 < b) {motive : Nat → List Char → Prop}
    (one : ∀ d, d < b → motive d [d.digitChar])
    (more : ∀ n d, 0 < n → d < b → motive n (Nat.toDigits b n) →
      motive (b * n + d) (Nat.toDigits b n ++ [d.digitChar])) (n : Nat) :
    motive n (Nat.toDigits b n) := by
  induction n using Nat.strongRecOn with
  | ind n ih =>
    by_cases hlt : n < b
    · rw [Nat.toDigits_of_lt_base hlt]
      exact one n hlt
    · have hpos : 0 < n / b := Nat.div_pos (by omega) (by omega)
      have hfront := ih (n / b) (Nat.div_lt_self (by omega) hb)
      have hstep := more (n / b) (n % b) hpos (Nat.mod_lt n (by omega)) hfront
      rw [Nat.div_add_mod] at hstep
      rw [Nat.toDigits_of_base_le hb (by omega)]
      exact hstep

theorem exists_of_mem_toDigits {b n : Nat} (hb : 1 < b) {c : Char} (h : c ∈ Nat.toDigits b n) :
    ∃ d < b, c = d.digitChar := by
  revert h
  refine toDigits_induction (motive := fun _ digits => c ∈ digits → ∃ d < b, c = d.digitChar) hb
    ?one ?more n
  case one =>
    intro d hd h
    exact ⟨d, hd, by simpa using h⟩
  case more =>
    intro n d _ hd ih h
    rcases List.mem_append.mp h with hfront | hlast
    · exact ih hfront
    · exact ⟨d, hd, by simpa using hlast⟩

/-- Only zero is written with a zero in front. -/
theorem head?_toDigits {b n : Nat} (hb : 1 < b) (hle : b ≤ 16) (h : 0 < n) :
    (Nat.toDigits b n).head? ≠ some '0' := by
  revert h
  refine toDigits_induction (motive := fun n digits => 0 < n → digits.head? ≠ some '0')
    hb ?one ?more n
  case one =>
    have hall : ∀ d : Fin 16, 0 < d.val → [d.val.digitChar].head? ≠ some '0' := by decide
    exact fun d hd => hall ⟨d, Nat.lt_of_lt_of_le hd hle⟩
  case more =>
    intro n d hn _ ih _
    obtain ⟨c, digits, hdigits⟩ := List.exists_cons_of_ne_nil
      (Nat.toDigits_ne_nil : Nat.toDigits b n ≠ [])
    rw [hdigits] at ih ⊢
    exact ih hn

theorem hexValue?_digitChar {d : Nat} (h : d < 16) : hexValue? d.digitChar = some d := by
  have hall : ∀ d : Fin 16, hexValue? d.val.digitChar = some d.val := by decide
  exact hall ⟨d, h⟩

/-! ## Decimal digits -/

/-- The number that decimal digits behind `n` make of it. -/
def valueFrom (n : Nat) (digits : List Nat) : Nat := digits.foldl (fun n d => n * 10 + d) n

@[simp] theorem valueFrom_nil (n : Nat) : valueFrom n [] = n := rfl

@[simp] theorem valueFrom_cons (n d : Nat) (digits : List Nat) :
    valueFrom n (d :: digits) = valueFrom (n * 10 + d) digits := rfl

theorem valueFrom_append (n : Nat) (digits digits' : List Nat) :
    valueFrom n (digits ++ digits') = valueFrom (valueFrom n digits) digits' :=
  List.foldl_append

theorem le_valueFrom (n : Nat) (digits : List Nat) : n ≤ valueFrom n digits := by
  induction digits generalizing n with
  | nil => exact Nat.le_refl n
  | cons d digits ih =>
    have hrest := ih (n * 10 + d)
    rw [valueFrom_cons]
    omega

theorem isDigit_of_mem_toDigits {n : Nat} {c : Char} (h : c ∈ Nat.toDigits 10 n) :
    c.isDigit = true :=
  Nat.isDigit_of_mem_toDigits (by decide) (by decide) h

/-- The digits of a number have its value. -/
theorem valueFrom_toDigits (n : Nat) :
    valueFrom 0 ((Nat.toDigits 10 n).map fun c => c.toNat - 48) = n := by
  rw [valueFrom, List.foldl_map]
  refine Eq.trans ?_ (Nat.ofDigitChars_toDigits (b := 10) (n := n) (by decide) (by decide))
  rw [Nat.ofDigitChars]
  congr 1
  funext n c
  rw [Nat.mul_comm]
  rfl

end EdgeRender.Text
