import EdgeRender.Text.Utf8
import Mathlib.Tactic.SplitIfs

/-! # Texts and their bytes

The bytes of a text are well formed, and decode to the text.
-/
namespace EdgeRender.Text.Utf8

/-- A property of ASCII characters holds if it holds of each. -/
theorem forall_ascii {P : Char → Prop} (h : ∀ n : Fin 0x80, P (.ofNat n.val)) {c : Char}
    (hc : c.toNat < 0x80) : P c := by
  have hn := h ⟨c.toNat, hc⟩
  rwa [Char.ofNat_toNat] at hn

/-- A property of the characters of a text is decided on these, and not on all characters there
are. -/
theorem forall_mem_of_all {P : Char → Prop} [DecidablePred P] {s : List Char}
    (h : s.all (fun c => decide (P c)) = true) : ∀ c ∈ s, P c := by
  simpa using h

theorem toNat_lt_of_isAlpha {c : Char} (h : c.isAlpha = true) : c.toNat < 0x80 := by
  rcases (Bool.or_eq_true_iff.mp h : c.isUpper = true ∨ c.isLower = true) with hupper | hlower
  · have hle : c.val ≤ 'Z'.val := (of_decide_eq_true hupper).2
    exact Nat.lt_of_le_of_lt hle (by decide)
  · have hle : c.val ≤ 'z'.val := of_decide_eq_true (Bool.and_eq_true_iff.mp hlower).2
    exact Nat.lt_of_le_of_lt hle (by decide)

theorem toNat_lt_of_isAlphanum {c : Char} (h : c.isAlphanum = true) : c.toNat < 0x80 := by
  rcases (Bool.or_eq_true_iff.mp h : c.isAlpha = true ∨ c.isDigit = true) with halpha | hdigit
  · exact toNat_lt_of_isAlpha halpha
  · have hle : c.val ≤ '9'.val := of_decide_eq_true (Bool.and_eq_true_iff.mp hdigit).2
    exact Nat.lt_of_le_of_lt hle (by decide)

@[simp] theorem encode_nil : encode [] = [] := rfl

theorem encode_cons (c : Char) (s : List Char) :
    encode (c :: s) = String.utf8EncodeChar c ++ encode s := rfl

theorem encode_append (s t : List Char) : encode (s ++ t) = encode s ++ encode t := by
  simp [encode]

/-! ## One character -/

section Bytes

variable {b b₁ b₂ b₃ : UInt8} {v : Nat}

theorem head_one (hv : v < 0x80) (hb : b.toNat = v) (rest : List UInt8) :
    head b rest = .char (.ofNat v) 0 := by
  have hascii : b < 0x80 := by
    rw [UInt8.lt_iff_toNat_lt, hb]
    exact hv
  unfold head
  rw [if_pos hascii, hb]

theorem isContinuation_of_toNat (h : b.toNat = v % 64 + 128) : isContinuation b = true := by
  simp [isContinuation, UInt8.le_iff_toNat_le, h]
  omega

theorem payload_of_toNat (h : b.toNat = v % 64 + 128) : payload b = v % 64 := by
  unfold payload
  omega

theorem head_two (hv : 0x80 ≤ v ∧ v < 0x800) (hb : b.toNat = v / 64 % 32 + 192)
    (hb₁ : b₁.toNat = v % 64 + 128) (rest : List UInt8) :
    head b (b₁ :: rest) = .char (.ofNat v) 1 := by
  have hlead : ¬ b < 0x80 ∧ (0xC2 ≤ b && b ≤ 0xDF) = true := by
    simp [UInt8.lt_iff_toNat_lt, UInt8.le_iff_toNat_le, hb]
    omega
  have hvalue : b.toNat % 32 * 64 + payload b₁ = v := by
    rw [payload_of_toNat hb₁]
    omega
  simp [head, hlead.1, hlead.2, isContinuation_of_toNat hb₁, hvalue]

theorem head_three (hv : 0x800 ≤ v ∧ v < 0x10000 ∧ ¬ (0xD800 ≤ v ∧ v ≤ 0xDFFF))
    (hb : b.toNat = v / 4096 % 16 + 224) (hb₁ : b₁.toNat = v / 64 % 64 + 128)
    (hb₂ : b₂.toNat = v % 64 + 128) (rest : List UInt8) :
    head b (b₁ :: b₂ :: rest) = .char (.ofNat v) 2 := by
  have hlead : ¬ b < 0x80 ∧ (0xC2 ≤ b && b ≤ 0xDF) = false ∧ (0xE0 ≤ b && b ≤ 0xEF) = true := by
    simp [UInt8.lt_iff_toNat_lt, UInt8.le_iff_toNat_le, hb]
    omega
  have hsecond : secondAllowed b b₁ = true := by
    simp [secondAllowed, isContinuation, UInt8.le_iff_toNat_le, ← UInt8.toNat_inj, hb, hb₁]
    split_ifs <;> omega
  have hvalue : (b.toNat % 16 * 64 + payload b₁) * 64 + payload b₂ = v := by
    rw [payload_of_toNat hb₁, payload_of_toNat hb₂]
    omega
  simp [head, hlead.1, hlead.2, hsecond, isContinuation_of_toNat hb₂, hvalue]

theorem head_four (hv : 0x10000 ≤ v ∧ v < 0x110000) (hb : b.toNat = v / 262144 % 8 + 240)
    (hb₁ : b₁.toNat = v / 4096 % 64 + 128) (hb₂ : b₂.toNat = v / 64 % 64 + 128)
    (hb₃ : b₃.toNat = v % 64 + 128) (rest : List UInt8) :
    head b (b₁ :: b₂ :: b₃ :: rest) = .char (.ofNat v) 3 := by
  have hlead : ¬ b < 0x80 ∧ (0xC2 ≤ b && b ≤ 0xDF) = false ∧ (0xE0 ≤ b && b ≤ 0xEF) = false ∧
      (0xF0 ≤ b && b ≤ 0xF4) = true := by
    simp [UInt8.lt_iff_toNat_lt, UInt8.le_iff_toNat_le, hb]
    omega
  have hsecond : secondAllowed b b₁ = true := by
    simp [secondAllowed, isContinuation, UInt8.le_iff_toNat_le, ← UInt8.toNat_inj, hb, hb₁]
    split_ifs <;> omega
  have hvalue : ((b.toNat % 8 * 64 + payload b₁) * 64 + payload b₂) * 64 + payload b₃ = v := by
    rw [payload_of_toNat hb₁, payload_of_toNat hb₂, payload_of_toNat hb₃]
    omega
  simp [head, hlead.1, hlead.2, hsecond, isContinuation_of_toNat hb₂, isContinuation_of_toNat hb₃,
    hvalue]

end Bytes

theorem utf8EncodeChar_eq (c : Char) : String.utf8EncodeChar c =
    if c.toNat ≤ 127 then [.ofNat c.toNat]
    else if c.toNat ≤ 2047 then
      [.ofNat (c.toNat / 64 % 32 + 192), .ofNat (c.toNat % 64 + 128)]
    else if c.toNat ≤ 65535 then
      [.ofNat (c.toNat / 4096 % 16 + 224), .ofNat (c.toNat / 64 % 64 + 128),
        .ofNat (c.toNat % 64 + 128)]
    else
      [.ofNat (c.toNat / 262144 % 8 + 240), .ofNat (c.toNat / 4096 % 64 + 128),
        .ofNat (c.toNat / 64 % 64 + 128), .ofNat (c.toNat % 64 + 128)] := rfl

/-- An ASCII character is one byte. -/
theorem utf8EncodeChar_of_lt {c : Char} (h : c.toNat < 0x80) :
    String.utf8EncodeChar c = [.ofNat c.toNat] := by
  rw [utf8EncodeChar_eq, if_pos (by omega)]

/-- No byte of any other character is that of an ASCII character. -/
theorem le_of_mem_utf8EncodeChar {c : Char} (h : 0x80 ≤ c.toNat) {b : UInt8}
    (hb : b ∈ String.utf8EncodeChar c) : 0x80 ≤ b.toNat := by
  have hbyte : ∀ n, 0x80 ≤ n → n < 256 → 0x80 ≤ (UInt8.ofNat n).toNat := by
    intro n hle hlt
    rwa [UInt8.toNat_ofNat_of_lt' hlt]
  rw [utf8EncodeChar_eq, if_neg (by omega)] at hb
  split_ifs at hb
  all_goals
    simp only [List.mem_cons, List.not_mem_nil, or_false] at hb
    rcases hb with rfl | rfl | rfl | rfl <;> exact hbyte _ (by omega) (by omega)

/-- The bytes of a character begin with this character. -/
theorem head_utf8EncodeChar (c : Char) (rest : List UInt8) : ∃ b more,
    String.utf8EncodeChar c = b :: more ∧ head b (more ++ rest) = .char c more.length := by
  have hvalid : c.toNat < 0xD800 ∨ (0xDFFF < c.toNat ∧ c.toNat < 0x110000) := by
    simpa [UInt32.isValidChar, Nat.isValidChar] using c.valid
  have hbyte : ∀ n, n < 256 → (UInt8.ofNat n).toNat = n := fun n => UInt8.toNat_ofNat_of_lt'
  rw [utf8EncodeChar_eq]
  -- By the number of bytes; the bounds on the code are what each length needs.
  split
  · refine ⟨_, _, rfl, (head_one ?_ (hbyte _ ?_) rest).trans ?_⟩
    · omega
    · omega
    · rw [Char.ofNat_toNat]
      rfl
  · split
    · refine ⟨_, _, rfl, (head_two ?_ (hbyte _ ?_) (hbyte _ ?_) rest).trans ?_⟩
      · omega
      · omega
      · omega
      · rw [Char.ofNat_toNat]
        rfl
    · split
      · refine ⟨_, _, rfl, (head_three ?_ (hbyte _ ?_) (hbyte _ ?_) (hbyte _ ?_) rest).trans ?_⟩
        · omega
        · omega
        · omega
        · omega
        · rw [Char.ofNat_toNat]
          rfl
      · refine ⟨_, _, rfl,
          (head_four ?_ (hbyte _ ?_) (hbyte _ ?_) (hbyte _ ?_) (hbyte _ ?_) rest).trans ?_⟩
        · omega
        · omega
        · omega
        · omega
        · omega
        · rw [Char.ofNat_toNat]
          rfl

/-! ## Texts -/

/-- The bytes behind the first one of a character are passed over. -/
theorem decodeFrom_append (index : Nat) (more rest : List UInt8) :
    decodeFrom index more.length (more ++ rest) = decodeFrom (index + more.length) 0 rest := by
  induction more generalizing index with
  | nil => rfl
  | cons b more ih =>
    rw [List.length_cons, List.cons_append, decodeFrom, ih]
    congr 1
    omega

theorem decodeFrom_encode (index : Nat) (s : List Char) :
    decodeFrom index 0 (encode s) = .ok s := by
  induction s generalizing index with
  | nil => rfl
  | cons c s ih =>
    obtain ⟨b, more, hbytes, hhead⟩ := head_utf8EncodeChar c (encode s)
    rw [encode_cons, hbytes, List.cons_append, decodeFrom, hhead]
    dsimp only
    rw [decodeFrom_append, ih]
    rfl

/-- A text is decoded from its bytes. -/
theorem decode_encode (s : List Char) : decode (encode s) = .ok s :=
  decodeFrom_encode 0 s

end EdgeRender.Text.Utf8
