import EdgeRender.Proofs.Text.Utf8
import EdgeRender.Proofs.Url.Address
import EdgeRender.Request.Id
import Mathlib.Data.List.Induction
import Mathlib.Data.List.Nodup

/-! # Identifiers are told apart

An identifier is made of a reading of the clock and a sequence number, and both are read back from
its text. The clock may stand still, go back or stand before the epoch: sequence numbers alone keep
the identifiers of one process apart, as long as fewer than 2^64 are made.
-/
namespace EdgeRender.RequestId

open EdgeRender.Text EdgeRender.Url

/-! ## Hexadecimal numerals -/

/-- Digits in base sixteen, with small letters. -/
def isHexPart (s : List Char) : Bool :=
  !s.isEmpty && s.all fun c => c.isDigit || ('a' ≤ c && c ≤ 'f')

/-- A number in base sixteen, as it is written: small letters, and no zero in front but a zero
alone. -/
structure IsNumeral (part : List Char) : Prop where
  hex : isHexPart part = true
  noLeadingZero : part.head? = some '0' → part = ['0']

theorem isHexPart_iff {part : List Char} :
    isHexPart part = true ↔ part ≠ [] ∧ ∀ c ∈ part, ∃ d < 16, c = d.digitChar := by
  have hdigit : ∀ c : Char, (c.isDigit || ('a' ≤ c && c ≤ 'f')) = true ↔
      ∃ d < 16, c = d.digitChar := by
    intro c
    constructor
    · intro h
      have hlt : c.toNat < 0x80 := by
        rcases Bool.or_eq_true_iff.mp h with hdigit | hletter
        · exact Utf8.toNat_lt_of_isAlphanum (by simp [Char.isAlphanum, hdigit])
        · have hle : c.val ≤ 'f'.val := of_decide_eq_true (Bool.and_eq_true_iff.mp hletter).2
          exact Nat.lt_of_le_of_lt hle (by decide)
      exact Utf8.forall_ascii (P := fun c => (c.isDigit || ('a' ≤ c && c ≤ 'f')) = true →
        ∃ d < 16, c = d.digitChar) (by decide) hlt h
    · rintro ⟨d, hd, rfl⟩
      have hall : ∀ d : Fin 16,
          (d.val.digitChar.isDigit || ('a' ≤ d.val.digitChar && d.val.digitChar ≤ 'f')) = true := by
        decide
      exact hall ⟨d, hd⟩
  simp only [isHexPart, Bool.and_eq_true, List.all_eq_true, hdigit]
  simp

theorem isNumeral_hexDigits (n : Nat) : IsNumeral (hexDigits n) where
  hex := isHexPart_iff.mpr
    ⟨Nat.toDigits_ne_nil, fun _ hc => exists_of_mem_toDigits (by decide) hc⟩
  noLeadingZero h := by
    rcases Nat.eq_zero_or_pos n with rfl | hpos
    · rfl
    · exact absurd h (head?_toDigits (by decide) (by decide) hpos)

/-- Every numeral is that of a number. -/
theorem IsNumeral.exists_eq {part : List Char} (h : IsNumeral part) : ∃ n, part = hexDigits n := by
  obtain ⟨hne, hdigits⟩ := isHexPart_iff.mp h.hex
  have hzero := h.noLeadingZero
  clear h
  -- the last digit was put behind the numeral of what is in front of it
  induction part using List.reverseRecOn with
  | nil => exact absurd rfl hne
  | append_singleton front c ih =>
    rw [List.forall_mem_append] at hdigits
    obtain ⟨d, hd, rfl⟩ := hdigits.2 c (List.mem_singleton_self c)
    by_cases hfront : front = []
    · subst hfront
      exact ⟨d, (Nat.toDigits_of_lt_base hd).symm⟩
    · have hhead : front.head? ≠ some '0' := by
        intro hhead
        have hlength := congrArg List.length
          (hzero (by rw [List.head?_append_of_ne_nil front hfront, hhead]))
        simp [hfront] at hlength
      obtain ⟨n, rfl⟩ := ih hfront hdigits.1 fun h => absurd h hhead
      have hpos : 0 < n := by
        rcases Nat.eq_zero_or_pos n with rfl | hpos
        · exact absurd rfl hhead
        · exact hpos
      refine ⟨16 * n + d, ?_⟩
      rw [hexDigits, hexDigits, ← Nat.toDigits_of_lt_base hd,
        Nat.toDigits_append_toDigits (by decide) hpos hd]

theorem hyphen_notMem_hexDigits (n : Nat) : '-' ∉ hexDigits n := by
  intro h
  exact absurd (isSome_hexValue? h) (by decide)

/-! ## Reading back -/

/-- The numbers that an identifier is made of. -/
def numbers? (id : RequestId) : Option (Nat × Nat) :=
  match splitAt '-' id.text.toList with
  | [clock, sequence] => do some (← numberIn? 16 clock, ← numberIn? 16 sequence)
  | _ => none

/-- Both numbers are read back, whatever they are. -/
theorem numbers?_made (nanos : Nat) (sequence : UInt64) :
    (made nanos sequence).numbers? = some (nanos, sequence.toNat) := by
  have hread : ∀ n, numberIn? 16 (hexDigits n) = some n :=
    numberIn?_toDigits (by decide) (by decide)
  have hsplit : splitAt '-' (made nanos sequence).text.toList =
      [hexDigits nanos, hexDigits sequence.toNat] := by
    rw [made, String.toList_ofList, splitAt_append (hyphen_notMem_hexDigits nanos),
      splitAt_of_not_mem (hyphen_notMem_hexDigits _)]
  simp [numbers?, hsplit, hread]

/-- Two numerals with one hyphen between them. -/
structure IsMade (id : RequestId) : Prop where
  parts : ∃ clock sequence, IsNumeral clock ∧ IsNumeral sequence ∧
    id.text.toList = clock ++ '-' :: sequence
  oneHyphen : id.text.toList.count '-' = 1

/-- These are the texts of two numbers, and no others. -/
theorem isMade_iff {id : RequestId} :
    id.IsMade ↔ ∃ n m, id.text.toList = hexDigits n ++ '-' :: hexDigits m := by
  constructor
  · rintro ⟨⟨clock, sequence, hclock, hsequence, htext⟩, -⟩
    obtain ⟨n, rfl⟩ := hclock.exists_eq
    obtain ⟨m, rfl⟩ := hsequence.exists_eq
    exact ⟨n, m, htext⟩
  · rintro ⟨n, m, htext⟩
    have hnone : ∀ n, (hexDigits n).count '-' = 0 :=
      fun n => List.count_eq_zero.mpr (hyphen_notMem_hexDigits n)
    refine ⟨⟨_, _, isNumeral_hexDigits n, isNumeral_hexDigits m, htext⟩, ?_⟩
    rw [htext, List.count_append, List.count_cons_self, hnone, hnone]

theorem isMade_made (nanos : Nat) (sequence : UInt64) : (made nanos sequence).IsMade :=
  isMade_iff.mpr ⟨nanos, sequence.toNat, String.toList_ofList⟩

/-! ## One process -/

/-- The identifiers that are made one after another, each at a reading of the clock. Calls are
listed as they took their sequence numbers; the clock may have been read any time before. -/
def generateAll (counter : Counter) : List Int → List RequestId
  | [] => []
  | clock :: clocks =>
    (generate clock counter).1 :: generateAll (generate clock counter).2 clocks

theorem length_generateAll (counter : Counter) (clocks : List Int) :
    (generateAll counter clocks).length = clocks.length := by
  induction clocks generalizing counter with
  | nil => rfl
  | cons clock clocks ih => rw [generateAll, List.length_cons, ih, List.length_cons]

/-- Sequence numbers go up by one. -/
theorem getElem?_generateAll (counter : Counter) (clocks : List Int) (i : Nat) :
    (generateAll counter clocks)[i]? =
      clocks[i]?.map fun clock => made clock.toNat (counter.next + .ofNat i) := by
  induction clocks generalizing counter i with
  | nil => rfl
  | cons clock clocks ih =>
    cases i with
    | zero =>
      have hnext : counter.next + UInt64.ofNat 0 = counter.next := UInt64.add_zero _
      rw [hnext]
      rfl
    | succ i =>
      have hnext : counter.next + 1 + UInt64.ofNat i = counter.next + .ofNat (i + 1) := by
        rw [UInt64.add_assoc, UInt64.add_comm 1, UInt64.ofNat_add]
        rfl
      rw [generateAll, List.getElem?_cons_succ, List.getElem?_cons_succ, ih, ← hnext]
      rfl

structure AreToldApart (clocks : List Int) : Prop where
  /-- Each call makes one. -/
  length : (generateAll {} clocks).length = clocks.length
  distinct : (generateAll {} clocks).Nodup
  made : ∀ id ∈ generateAll {} clocks, id.IsMade
  /-- The reading of the clock is read back, a time before the epoch being read as zero, and so is
  the sequence number. -/
  numbers : ∀ (i : Nat) (clock : Int), clocks[i]? = some clock →
    ∃ id, (generateAll {} clocks)[i]? = some id ∧ id.numbers? = some (clock.toNat, i + 1)

/-- Whatever the clock shows, identifiers are told apart by their sequence numbers. -/
theorem areToldApart_of_length_lt {clocks : List Int} (h : clocks.length < 2 ^ 64) :
    AreToldApart clocks := by
  have hsequence : ∀ i, i < clocks.length → ((1 : UInt64) + .ofNat i).toNat = i + 1 := by
    intro i hi
    rw [UInt64.toNat_add, UInt64.toNat_ofNat_of_lt' (show i < 2 ^ 64 by omega)]
    show (1 + i) % 2 ^ 64 = i + 1
    omega
  have hnumbers : ∀ (i : Nat) (clock : Int), clocks[i]? = some clock →
      ∃ id, (generateAll {} clocks)[i]? = some id ∧
        id.numbers? = some (clock.toNat, i + 1) := by
    intro i clock hclock
    refine ⟨_, by rw [getElem?_generateAll, hclock]; rfl, ?_⟩
    rw [numbers?_made, hsequence i (List.getElem?_eq_some_iff.mp hclock).1]
  refine ⟨length_generateAll _ _, ?distinct, ?made, hnumbers⟩
  case distinct =>
    refine List.nodup_iff_getElem?_ne_getElem?.mpr fun i j hij hj heq => ?_
    rw [length_generateAll] at hj
    obtain ⟨id, hid, hread⟩ := hnumbers i _ (List.getElem?_eq_getElem (Nat.lt_trans hij hj))
    obtain ⟨id', hid', hread'⟩ := hnumbers j _ (List.getElem?_eq_getElem hj)
    obtain rfl : id = id' := Option.some.inj (hid.symm.trans (heq.trans hid'))
    have hsame := congrArg (·.map Prod.snd) (hread.symm.trans hread')
    simp at hsame
    omega
  case made =>
    intro id hid
    obtain ⟨i, hi⟩ := List.mem_iff_getElem?.mp hid
    rw [getElem?_generateAll] at hi
    obtain ⟨clock, -, rfl⟩ := Option.map_eq_some_iff.mp hi
    exact isMade_made _ _

/-- The clock stands still, goes back and stands before the epoch. -/
theorem areToldApart_backwards :
    [255, 255, 16, -1, 0].length < 2 ^ 64 ∧ AreToldApart [255, 255, 16, -1, 0] :=
  ⟨by decide, areToldApart_of_length_lt (by decide)⟩

example : (generateAll {} [255, 255, 16, -1, 0]).map (·.text) =
    ["ff-1", "ff-2", "10-3", "0-4", "0-5"] := by
  decide

end EdgeRender.RequestId
