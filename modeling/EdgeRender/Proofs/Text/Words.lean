import EdgeRender.Proofs.Text.Digits
import EdgeRender.Proofs.Text.Trim
import EdgeRender.Proofs.Text.Utf8
import Mathlib

/-! # Words

What a short text spells: a name in any letter case or a decimal number, with blanks around it.
The forms are said here by themselves, and then by what is left of a text when it is trimmed and
its capitals are made small.
-/
namespace EdgeRender.Text

/-! ## Blanks around a word -/

/-- A text is a word of the given form with blanks before and after it. -/
def Padded (form : List Char → Prop) (text : String) : Prop :=
  ∃ before word after, text.toList = before ++ word ++ after ∧
    (∀ c ∈ before, isBlank c = true) ∧ (∀ c ∈ after, isBlank c = true) ∧ form word

/-- No blanks are needed. -/
theorem padded_self {form : List Char → Prop} {text : String} (h : form text.toList) :
    Padded form text :=
  ⟨[], text.toList, [], by simp, by simp, by simp, h⟩

/-- Where no word of the form has a blank, the word is what is left of the text when it is
trimmed. -/
theorem padded_iff {form : List Char → Prop} {text : String}
    (hform : ∀ word, form word → ∀ c ∈ word, isBlank c = false) :
    Padded form text ↔ form (trim text).toList := by
  rw [trim, String.toList_ofList]
  constructor
  · rintro ⟨before, word, after, htext, hbefore, hafter, hword⟩
    have hends : trimEnds isBlank word = word :=
      trimEnds_of_ends (fun c hc => hform word hword c (List.mem_of_mem_head? hc))
        (fun c hc => hform word hword c (List.mem_of_getLast? hc))
    rwa [htext, trimEnds_append hbefore hafter, hends]
  · intro hword
    obtain ⟨before, after, htext, hbefore, hafter⟩ := exists_trimEnds isBlank text.toList
    exact ⟨before, _, after, htext, hbefore, hafter, hword⟩

/-! ## Names in any letter case -/

/-- A character has this one as its small letter just if it is this one, or its capital. -/
theorem toLower_eq_iff {c d : Char} (hd : d.isUpper = false) :
    c.toLower = d ↔ c = d ∨ c = d.toUpper := by
  have hself : d.toLower = d := Char.toLower_eq_of_not_isUpper (by simp [hd])
  constructor
  · rintro rfl
    by_cases hc : c.isUpper
    · have hback := Char.toUpper_eq_of_not_isLower (Char.not_isLower_of_isUpper hc)
      exact .inr (by rw [Char.toUpper_toLower_eq_toUpper, hback])
    · exact .inl (Char.toLower_eq_of_not_isUpper hc).symm
  · rintro (rfl | rfl)
    · exact hself
    · rw [Char.toLower_toUpper_eq_toLower, hself]

/-- A blank is no letter. -/
theorem isUpper_of_isBlank {c : Char} (h : isBlank c = true) : c.isUpper = false := by
  rw [Bool.eq_false_iff]
  intro hupper
  have hlt : c.toNat < 0x80 := Utf8.toNat_lt_of_isAlpha (by simp [Char.isAlpha, hupper])
  exact Utf8.forall_ascii (P := fun c => isBlank c = true → c.isUpper = true → False)
    (by decide) hlt h hupper

/-- A word is a name, each letter of it small or capital. -/
def InAnyCase (name : String) (word : List Char) : Prop :=
  List.Forall₂ (fun c d => c = d ∨ c = d.toUpper) word name.toList

theorem inAnyCase_self (name : String) : InAnyCase name name.toList :=
  List.forall₂_same.mpr fun _ _ => .inl rfl

/-- A character that names are made of here: neither a capital nor blank. -/
def IsNameLetter (d : Char) : Prop := d.isUpper = false ∧ isBlank d = false

instance (d : Char) : Decidable (IsNameLetter d) := inferInstanceAs (Decidable (_ ∧ _))

theorem isNameLetter_of_all {names : List String}
    (h : names.all (·.toList.all (IsNameLetter ·)) = true) :
    ∀ name ∈ names, ∀ d ∈ name.toList, IsNameLetter d := by
  simpa only [List.all_eq_true, decide_eq_true_eq] using h

theorem inAnyCase_iff {name : String} (h : ∀ d ∈ name.toList, IsNameLetter d)
    {word : List Char} : InAnyCase name word ↔ word.map Char.toLower = name.toList := by
  unfold InAnyCase
  generalize name.toList = letters at h
  induction letters generalizing word with
  | nil => simp
  | cons d letters ih =>
    obtain ⟨hd, hletters⟩ := List.forall_mem_cons.mp h
    cases word with
    | nil => simp
    | cons c word =>
      rw [List.forall₂_cons, ih hletters, List.map_cons, List.cons.injEq, toLower_eq_iff hd.1]

/-- No letter of a name becomes a blank. -/
theorem InAnyCase.isBlank_eq_false {name : String} (h : ∀ d ∈ name.toList, IsNameLetter d)
    {word : List Char} (hword : InAnyCase name word) {c : Char} (hc : c ∈ word) :
    isBlank c = false := by
  rw [Bool.eq_false_iff]
  intro hblank
  have hmem : c.toLower ∈ name.toList := by
    rw [← (inAnyCase_iff h).mp hword]
    exact List.mem_map_of_mem hc
  rw [Char.toLower_eq_of_not_isUpper (by simp [isUpper_of_isBlank hblank])] at hmem
  exact Bool.false_ne_true ((h c hmem).2.symm.trans hblank)

/-- One of the names, in any letter case and with blanks around it. -/
def Names (names : List String) : String → Prop :=
  Padded fun word => ∃ name ∈ names, InAnyCase name word

theorem names_iff {names : List String} (h : ∀ name ∈ names, ∀ d ∈ name.toList, IsNameLetter d)
    {text : String} : Names names text ↔ lowerAscii (trim text) ∈ names := by
  have hblank : ∀ word, (∃ name ∈ names, InAnyCase name word) →
      ∀ c ∈ word, isBlank c = false := by
    rintro word ⟨name, hname, hword⟩ c hc
    exact hword.isBlank_eq_false (h name hname) hc
  rw [Names, padded_iff hblank]
  constructor
  · rintro ⟨name, hname, hword⟩
    rwa [lowerAscii, (inAnyCase_iff (h name hname)).mp hword, String.ofList_toList]
  · intro hname
    refine ⟨_, hname, (inAnyCase_iff (h _ hname)).mpr ?_⟩
    rw [lowerAscii, String.toList_ofList]

/-! ## Decimal numbers -/

/-- Decimal digits and what they are worth. Zeros may stand in front. -/
inductive IsDecimal : List Char → Nat → Prop where
  | one {d : Nat} : d < 10 → IsDecimal [d.digitChar] d
  | more {digits : List Char} {n d : Nat} : IsDecimal digits n → d < 10 →
      IsDecimal (digits ++ [d.digitChar]) (10 * n + d)

/-- Decimal digits of a number, with a plus sign in front of them or without. -/
inductive IsNumeral (n : Nat) : List Char → Prop where
  | bare {digits : List Char} : IsDecimal digits n → IsNumeral n digits
  | plus {digits : List Char} : IsDecimal digits n → IsNumeral n ('+' :: digits)

theorem isDecimal_toDigits (n : Nat) : IsDecimal (Nat.toDigits 10 n) n :=
  toDigits_induction (motive := fun n digits => IsDecimal digits n) (by decide)
    (fun _ hd => .one hd) (fun _ _ _ hd h => .more h hd) n

/-- A digit is worth what it is the digit of. -/
theorem digit_digitChar {d : Nat} (h : d < 10) :
    d.digitChar.isDigit = true ∧ d.digitChar.toNat - 48 = d := by
  have hall : ∀ d : Fin 10, d.val.digitChar.isDigit = true ∧ d.val.digitChar.toNat - 48 = d.val := by
    decide
  exact hall ⟨d, h⟩

theorem exists_digitChar_eq {c : Char} (h : c.isDigit = true) : ∃ d < 10, c = d.digitChar := by
  have hlt : c.toNat < 0x80 := Utf8.toNat_lt_of_isAlphanum (by simp [Char.isAlphanum, h])
  exact Utf8.forall_ascii (P := fun c => c.isDigit = true → ∃ d < 10, c = d.digitChar)
    (by decide) hlt h

theorem isDecimal_iff {digits : List Char} {n : Nat} :
    IsDecimal digits n ↔ digits ≠ [] ∧ (∀ c ∈ digits, c.isDigit = true) ∧
      valueFrom 0 (digits.map fun c => c.toNat - 48) = n := by
  constructor
  · intro h
    induction h with
    | one hd =>
      obtain ⟨hdigit, hvalue⟩ := digit_digitChar hd
      simp [hdigit, hvalue]
    | more h hd ih =>
      obtain ⟨-, hdigits, hvalue⟩ := ih
      obtain ⟨hdigit, hlast⟩ := digit_digitChar hd
      refine ⟨by simp, ?_, ?_⟩
      · rw [List.forall_mem_append]
        exact ⟨hdigits, by simpa using hdigit⟩
      · rw [List.map_append, valueFrom_append, hvalue]
        simp [hlast, Nat.mul_comm]
  · rintro ⟨hne, hdigits, rfl⟩
    -- the last digit was put behind the others
    induction digits using List.reverseRecOn with
    | nil => exact absurd rfl hne
    | append_singleton digits c ih =>
      rw [List.forall_mem_append] at hdigits
      obtain ⟨d, hd, rfl⟩ := exists_digitChar_eq (hdigits.2 c (List.mem_singleton_self c))
      rw [List.map_append, valueFrom_append, List.map_singleton, (digit_digitChar hd).2]
      cases hfront : digits with
      | nil => simpa using IsDecimal.one hd
      | cons _ _ =>
        have hmore := (ih (by simp [hfront]) hdigits.1).more hd
        rw [hfront, Nat.mul_comm] at hmore
        exact hmore

theorem isBlank_eq_false_of_isNumeral {n : Nat} {word : List Char} (h : IsNumeral n word) :
    ∀ c ∈ word, isBlank c = false := by
  have hdigit : ∀ c : Char, c.isDigit = true → isBlank c = false := by
    intro c hc
    obtain ⟨d, hd, rfl⟩ := exists_digitChar_eq hc
    have hall : ∀ d : Fin 10, isBlank d.val.digitChar = false := by decide
    exact hall ⟨d, hd⟩
  cases h with
  | bare h => exact fun c hc => hdigit c ((isDecimal_iff.mp h).2.1 c hc)
  | plus h =>
    rw [List.forall_mem_cons]
    exact ⟨by decide, fun c hc => hdigit c ((isDecimal_iff.mp h).2.1 c hc)⟩

end EdgeRender.Text
