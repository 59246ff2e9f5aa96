import EdgeRender.Url.Address
import EdgeRender.Proofs.Text.Digits
import EdgeRender.Proofs.Text.Parts
import Mathlib.Algebra.Group.Nat.Defs
import Mathlib.Data.List.Induction

/-! # Numeric addresses are read back

Written IPv4 and IPv6 addresses are read as themselves.
-/
namespace EdgeRender.Url

open EdgeRender.Text

/-! ## Numbers -/

theorem numberIn?_concat (base : Nat) (digits : List Char) (c : Char) :
    numberIn? base (digits ++ [c]) =
      (numberIn? base digits).bind fun n => (hexValue? c).bind fun d =>
        if d < base then some (n * base + d) else none := by
  rw [numberIn?, List.foldl_append]
  rfl

/-- A number is read from its digits. -/
theorem numberIn?_toDigits {base : Nat} (hbase : 1 < base) (hle : base ≤ 16) (n : Nat) :
    numberIn? base (Nat.toDigits base n) = some n := by
  refine toDigits_induction (motive := fun n digits => numberIn? base digits = some n) hbase
    ?one ?more n
  case one =>
    intro d hd
    rw [← List.nil_append [_], numberIn?_concat, hexValue?_digitChar (by omega)]
    simp [numberIn?, hd]
  case more =>
    intro n d _ hd ih
    rw [numberIn?_concat, ih, hexValue?_digitChar (by omega)]
    simp [hd, Nat.mul_comm]

/-! ## IPv4 -/

theorem ipv4Number?_toDigits (n : Nat) : ipv4Number? (Nat.toDigits 10 n) = some n := by
  have hnumber := numberIn?_toDigits (show 1 < 10 by decide) (by decide) n
  rcases Nat.eq_zero_or_pos n with rfl | hpos
  · rfl
  · have hzero := head?_toDigits (show 1 < 10 by decide) (by decide) hpos
    obtain ⟨c, digits, hdigits⟩ := List.exists_cons_of_ne_nil
      (Nat.toDigits_ne_nil : Nat.toDigits 10 n ≠ [])
    rw [hdigits] at hnumber hzero ⊢
    have hc : c ≠ '0' := fun hc => hzero (by rw [hc]; rfl)
    unfold ipv4Number?
    split
    · contradiction
    · next h => exact absurd (List.cons.inj h).1 hc
    · next h => exact absurd (List.cons.inj h).1 hc
    · next h => exact absurd (List.cons.inj h).1 hc
    · exact hnumber

def ipv4Bytes (n : Nat) : List Nat :=
  [n / 16777216 % 256, n / 65536 % 256, n / 256 % 256, n % 256]

theorem ipv4OfNumbers?_bytes {n : Nat} (h : n < 4294967296) :
    ipv4OfNumbers? (ipv4Bytes n) = some n := by
  simp [ipv4OfNumbers?, ipv4Bytes]
  omega

theorem splitAt_ipv4Text (n : Nat) :
    splitAt '.' (ipv4Text n) = (ipv4Bytes n).map (Nat.toDigits 10) := by
  refine splitAt_joinWith (by simp) fun part hpart hdot => ?_
  obtain ⟨b, -, rfl⟩ := List.mem_map.mp hpart
  exact absurd (isDigit_of_mem_toDigits hdot) (by decide)

theorem dottedParts_ipv4Text (n : Nat) :
    dottedParts (ipv4Text n) = (ipv4Bytes n).map (Nat.toDigits 10) := by
  have hlast : ((ipv4Bytes n).map (Nat.toDigits 10)).getLast? ≠ some [] := by
    simp [ipv4Bytes, Nat.toDigits_ne_nil]
  rw [dottedParts, splitAt_ipv4Text]
  exact if_neg hlast

theorem endsInNumber_ipv4Text (n : Nat) : endsInNumber (ipv4Text n) = true := by
  have hlast : ((ipv4Bytes n).map (Nat.toDigits 10)).getLast? =
      some (Nat.toDigits 10 (n % 256)) := rfl
  unfold endsInNumber
  rw [dottedParts_ipv4Text, hlast]
  simp [ipv4Number?_toDigits]

/-- A written IPv4 address is read back. -/
theorem ipv4?_ipv4Text {n : Nat} (h : n < 4294967296) : ipv4? (ipv4Text n) = some n := by
  have hnumbers : (dottedParts (ipv4Text n)).mapM ipv4Number? = some (ipv4Bytes n) := by
    rw [dottedParts_ipv4Text, mapM_eq_some_iff]
    exact List.forall₂_map_left_iff.mpr
      (List.forall₂_same.mpr fun b _ => ipv4Number?_toDigits b)
  rw [ipv4?, hnumbers]
  exact ipv4OfNumbers?_bytes h

/-! ## IPv6 -/

/-- The pieces of an IPv6 address are numbers of 16 bits. -/
def ArePieces (pieces : List Nat) : Prop := ∀ p ∈ pieces, p < 65536

theorem isSome_hexValue? {n : Nat} {c : Char} (h : c ∈ hexDigits n) :
    (hexValue? c).isSome = true := by
  obtain ⟨d, hd, rfl⟩ := exists_of_mem_toDigits (by decide) h
  rw [hexValue?_digitChar hd]
  rfl

theorem length_hexDigits_le {p : Nat} (h : p < 65536) : (hexDigits p).length ≤ 4 :=
  (Nat.length_toDigits_le_iff (by decide) (by decide)).mpr h

theorem hexDigits_cons (n : Nat) : ∃ c digits, hexDigits n = c :: digits ∧ c ≠ ':' := by
  obtain ⟨c, digits, hdigits⟩ := List.exists_cons_of_ne_nil
    (Nat.toDigits_ne_nil : Nat.toDigits 16 n ≠ [])
  refine ⟨c, digits, hdigits, ?_⟩
  rintro rfl
  have hcolon : (hexValue? ':').isSome = true :=
    isSome_hexValue? (n := n) (by simp [hexDigits, hdigits])
  exact absurd hcolon (by decide)

/-- The digits of a piece are all that is read of it, if no digit comes after them. -/
theorem takeWhile_hexDigits {p : Nat} (h : p < 65536) {rest : List Char}
    (hrest : ∀ c ∈ rest.head?, hexValue? c = none) :
    ((hexDigits p ++ rest).take 4).takeWhile (fun c => (hexValue? c).isSome) = hexDigits p := by
  have htake : (hexDigits p ++ rest).take 4 =
      hexDigits p ++ rest.take (4 - (hexDigits p).length) := by
    rw [List.take_append, List.take_of_length_le (length_hexDigits_le h)]
  rw [htake]
  refine takeWhile_append_of_head (fun c hc => isSome_hexValue? hc) fun c hc => ?_
  rw [List.head?_take] at hc
  split at hc
  · contradiction
  · rw [hrest c hc]
    rfl

/-- The number of pieces read, a gap counting as one. -/
def piecesRead (pieces : List Nat) (gap : Option Nat) : Nat :=
  pieces.length + if gap.isSome then 1 else 0

variable {p bound : Nat} {pieces done : List Nat} {gap : Option Nat} {rest : List Char}

/-- A piece is read up to a colon behind it, or up to the end. -/
theorem ipv6From_piece (hp : p < 65536) (hcount : piecesRead done gap < 8)
    (hrest : ∀ c ∈ rest.head?, c = ':') :
    ipv6From (bound + 1) done gap (hexDigits p ++ rest) =
      if rest = [] then some (done ++ [p], gap)
      else if rest.tail = [] then none
      else ipv6From bound (done ++ [p]) gap rest.tail := by
  have hstop : ∀ c ∈ rest.head?, hexValue? c = none := by
    intro c hc
    rw [hrest c hc]
    rfl
  have hdigits := takeWhile_hexDigits hp hstop
  have hnumber : (numberIn? 16 (hexDigits p)).getD 0 = p := by
    rw [hexDigits, numberIn?_toDigits (by decide) (by decide)]
    rfl
  obtain ⟨c, digits, hcons, hcolon⟩ := hexDigits_cons p
  have hempty : (hexDigits p ++ rest).isEmpty = false := by simp [hcons]
  have hhead : (hexDigits p ++ rest).head? ≠ some ':' := by simp [hcons, hcolon]
  have hne : piecesRead done gap ≠ 8 := by omega
  unfold piecesRead at hne
  rw [ipv6From]
  dsimp only
  rw [hempty, if_neg (by decide), if_neg hne, if_neg hhead, hdigits, hnumber, List.drop_left]
  cases rest with
  | nil => rfl
  | cons c rest =>
    obtain rfl : c = ':' := hrest c rfl
    by_cases hend : rest = [] <;> simp [hend]

theorem piecesText_cons (hne : pieces ≠ []) :
    piecesText (p :: pieces) = hexDigits p ++ ':' :: piecesText pieces := by
  obtain ⟨q, pieces, rfl⟩ := List.exists_cons_of_ne_nil hne
  simp [piecesText, joinWith]

theorem piecesText_ne_nil (hne : pieces ≠ []) : piecesText pieces ≠ [] := by
  obtain ⟨q, pieces, rfl⟩ := List.exists_cons_of_ne_nil hne
  obtain ⟨c, digits, hcons, -⟩ := hexDigits_cons q
  cases pieces with
  | nil => simp [piecesText, joinWith, hcons]
  | cons => simp [piecesText_cons, hcons]

/-- Pieces up to the end are read one after another. -/
theorem ipv6From_pieces (hpieces : ArePieces pieces)
    (hcount : piecesRead done gap + pieces.length ≤ 8) (hbound : pieces.length < bound) :
    ipv6From bound done gap (piecesText pieces) = some (done ++ pieces, gap) := by
  induction pieces generalizing bound done with
  | nil =>
    obtain ⟨bound, rfl⟩ := Nat.exists_eq_add_one_of_ne_zero (Nat.ne_of_gt hbound)
    simp [piecesText, joinWith, ipv6From]
  | cons p pieces ih =>
    obtain ⟨bound, rfl⟩ :=
      Nat.exists_eq_add_one_of_ne_zero (Nat.ne_of_gt (Nat.zero_lt_of_lt hbound))
    rw [List.length_cons] at hcount hbound
    have hp := hpieces p (by simp)
    have hrest : ArePieces pieces := fun q hq => hpieces q (by simp [hq])
    by_cases hne : pieces = []
    · subst hne
      have hlast : ipv6From (bound + 1) done gap (hexDigits p ++ []) = some (done ++ [p], gap) :=
        ipv6From_piece hp (by omega) (by simp)
      rw [List.append_nil] at hlast
      exact hlast
    · rw [piecesText_cons hne, ipv6From_piece hp (by omega) (by simp), if_neg (by simp),
        if_neg (by simpa using piecesText_ne_nil hne), List.tail_cons,
        ih hrest (by simp [piecesRead] at hcount ⊢; omega) (by omega)]
      simp

/-- Pieces in front of a gap are read one after another, and then the gap. -/
theorem ipv6From_gap (hne : pieces ≠ []) (hpieces : ArePieces pieces)
    (hcount : done.length + pieces.length < 8) :
    ipv6From (bound + 1 + pieces.length) done none (piecesText pieces ++ ':' :: ':' :: rest) =
      ipv6From bound (done ++ pieces) (some (done ++ pieces).length) rest := by
  induction pieces generalizing done with
  | nil => contradiction
  | cons p pieces ih =>
    rw [List.length_cons] at hcount ⊢
    have hp := hpieces p (by simp)
    have hrest : ArePieces pieces := fun q hq => hpieces q (by simp [hq])
    have hread : piecesRead done none < 8 := by
      simp [piecesRead]
      omega
    rw [← Nat.add_assoc]
    by_cases hne : pieces = []
    · subst hne
      have htext : piecesText [p] = hexDigits p := rfl
      rw [htext, ipv6From_piece hp hread (by simp), if_neg (by simp), if_neg (by simp)]
      have hdone : (done ++ [p]).length ≠ 8 := by simp; omega
      rw [List.tail_cons, List.length_nil, Nat.add_zero, ipv6From]
      simp at hdone ⊢
      omega
    · rw [piecesText_cons hne, List.append_assoc, List.cons_append,
        ipv6From_piece hp hread (by simp), if_neg (by simp), if_neg (by simp), List.tail_cons,
        ih hne hrest (by simp; omega)]
      simp

/-- The run that is left out lies inside the pieces, and holds zeros only. -/
theorem longestZeros_spec (index : Nat) (pieces : List Nat) :
    index ≤ (longestZeros index pieces).1 ∧
      (longestZeros index pieces).1 - index + (longestZeros index pieces).2 ≤ pieces.length ∧
      (pieces.drop ((longestZeros index pieces).1 - index)).take (longestZeros index pieces).2 =
        List.replicate (longestZeros index pieces).2 0 := by
  induction pieces generalizing index with
  | nil => simp [longestZeros]
  | cons p pieces ih =>
    have hahead : (p :: pieces).take (zerosAhead (p :: pieces)) =
        List.replicate (zerosAhead (p :: pieces)) 0 := by
      have hahead := List.takeWhile_prefix (l := p :: pieces) (fun q => decide (q = 0))
      rw [zerosAhead, ← List.prefix_iff_eq_take.mp hahead]
      refine List.eq_replicate_of_mem fun q hq => ?_
      simpa using List.all_eq_true.mp List.all_takeWhile q hq
    have hlength : zerosAhead (p :: pieces) ≤ (p :: pieces).length :=
      (List.takeWhile_prefix _).length_le
    obtain ⟨hle, hinside, hzeros⟩ := ih (index + 1)
    unfold longestZeros
    dsimp only
    split
    · exact ⟨Nat.le_refl _, by simpa using hlength, by simpa using hahead⟩
    · dsimp only
      have hskip : (longestZeros (index + 1) pieces).1 - index =
          (longestZeros (index + 1) pieces).1 - (index + 1) + 1 := by omega
      refine ⟨by omega, ?_, ?_⟩
      · rw [hskip, List.length_cons]
        omega
      · rw [hskip, List.drop_succ_cons]
        exact hzeros

theorem length_le_piecesText (pieces : List Nat) : pieces.length ≤ (piecesText pieces).length := by
  induction pieces with
  | nil => exact Nat.le_refl 0
  | cons p pieces ih =>
    by_cases hne : pieces = []
    · subst hne
      exact List.length_pos_iff.mpr (piecesText_ne_nil (by simp))
    · rw [piecesText_cons hne, List.length_append, List.length_cons, List.length_cons]
      omega

/-- The eight pieces that have been read, zeros in the place of the gap. -/
def filled? : List Nat × Option Nat → Option (List Nat)
  | (pieces, none) => if pieces.length = 8 then some pieces else none
  | (pieces, some n) =>
    some (pieces.take n ++ List.replicate (8 - pieces.length) 0 ++ pieces.drop n)

theorem filled?_gap {front back : List Nat} {zeros : Nat}
    (hlength : front.length + zeros + back.length = 8) :
    filled? (front ++ back, some front.length) =
      some (front ++ List.replicate zeros 0 ++ back) := by
  have hzeros : 8 - (front ++ back).length = zeros := by
    rw [List.length_append]
    omega
  rw [filled?, hzeros, List.take_left, List.drop_left]

theorem ipv6?_of_gap (s : List Char) :
    ipv6? (':' :: ':' :: s) = (ipv6From (s.length + 1) [] (some 0) s).bind filled? :=
  congrArg (Option.bind _) (funext fun (_, gap) => by cases gap <;> rfl)

/-- A text that does not begin with a colon is read from its first piece on. -/
theorem ipv6?_of_head {s : List Char} (h : ∀ c ∈ s.head?, c ≠ ':') (hne : s ≠ []) :
    ipv6? s = (ipv6From (s.length + 1) [] none s).bind filled? := by
  obtain ⟨c, s, rfl⟩ := List.exists_cons_of_ne_nil hne
  have hc : c ≠ ':' := h c rfl
  unfold ipv6?
  split
  · next heq => exact absurd (List.cons.inj heq).1 hc
  · next heq => exact absurd (List.cons.inj heq).1 hc
  · contradiction
  · exact congrArg (Option.bind _) (funext fun (_, gap) => by cases gap <;> rfl)

theorem head?_piecesText (hne : pieces ≠ []) (rest : List Char) :
    ∀ c ∈ (piecesText pieces ++ rest).head?, c ≠ ':' := by
  obtain ⟨p, pieces, rfl⟩ := List.exists_cons_of_ne_nil hne
  obtain ⟨c, digits, hcons, hcolon⟩ := hexDigits_cons p
  have hhead : (piecesText (p :: pieces) ++ rest).head? = some c := by
    by_cases hlast : pieces = []
    · subst hlast
      show (hexDigits p ++ rest).head? = some c
      rw [hcons]
      rfl
    · rw [piecesText_cons hlast, hcons]
      rfl
  intro c' hc'
  rw [hhead] at hc'
  obtain rfl := Option.some.inj hc'
  exact hcolon

/-- Eight pieces without a gap are read back. -/
theorem ipv6?_piecesText (hlength : pieces.length = 8) (hpieces : ArePieces pieces) :
    ipv6? (piecesText pieces) = some pieces := by
  have hne : pieces ≠ [] := by
    rintro rfl
    simp at hlength
  have hbound := length_le_piecesText pieces
  have hhead := head?_piecesText hne []
  rw [List.append_nil] at hhead
  rw [ipv6?_of_head hhead (piecesText_ne_nil hne),
    ipv6From_pieces hpieces (by simp [piecesRead, hlength]) (by omega)]
  exact if_pos hlength

/-- Pieces are read back if zeros among them are left out. -/
theorem ipv6?_gap {front back : List Nat} {zeros : Nat} (hfront : ArePieces front)
    (hback : ArePieces back) (hzeros : 2 ≤ zeros)
    (hlength : front.length + zeros + back.length = 8) :
    ipv6? (piecesText front ++ [':', ':'] ++ piecesText back) =
      some (front ++ List.replicate zeros 0 ++ back) := by
  have hbound := length_le_piecesText back
  by_cases hne : front = []
  · subst hne
    have hread : ipv6From ((piecesText back).length + 1) [] (some 0) (piecesText back) =
        some (back, some 0) :=
      ipv6From_pieces hback (by simp [piecesRead] at hlength ⊢; omega) (by omega)
    have htext : piecesText [] ++ [':', ':'] ++ piecesText back = ':' :: ':' :: piecesText back :=
      rfl
    rw [htext, ipv6?_of_gap, hread]
    exact filled?_gap hlength
  · have htext : piecesText front ++ [':', ':'] ++ piecesText back =
        piecesText front ++ ':' :: ':' :: piecesText back := by simp
    have hrounds : ∃ bound, (piecesText front ++ ':' :: ':' :: piecesText back).length + 1 =
        bound + 1 + front.length ∧ back.length < bound := by
      have hlong := length_le_piecesText front
      refine ⟨(piecesText front ++ ':' :: ':' :: piecesText back).length - front.length, ?_, ?_⟩ <;>
        rw [List.length_append, List.length_cons, List.length_cons] <;> omega
    obtain ⟨bound, hrounds, hbound⟩ := hrounds
    rw [htext, ipv6?_of_head (head?_piecesText hne _) (by simp), hrounds,
      ipv6From_gap hne hfront (by simp; omega),
      ipv6From_pieces hback (by simp [piecesRead]; omega) hbound]
    exact filled?_gap hlength

/-- A written IPv6 address is read back. -/
theorem ipv6?_ipv6Text (hlength : pieces.length = 8) (hpieces : ArePieces pieces) :
    ipv6? (ipv6Text pieces) = some pieces := by
  obtain ⟨-, hinside, hzeros⟩ := longestZeros_spec 0 pieces
  unfold ipv6Text
  dsimp only
  generalize (longestZeros 0 pieces).1 = start at *
  generalize (longestZeros 0 pieces).2 = zeros at *
  rw [Nat.sub_zero] at hinside hzeros
  by_cases hshort : zeros < 2
  · rw [if_pos hshort]
    exact ipv6?_piecesText hlength hpieces
  · have hfront : ArePieces (pieces.take start) := fun p hp => hpieces p (List.mem_of_mem_take hp)
    have hback : ArePieces (pieces.drop (start + zeros)) :=
      fun p hp => hpieces p (List.mem_of_mem_drop hp)
    have hgap := ipv6?_gap hfront hback (show 2 ≤ zeros by omega)
      (by rw [List.length_take, List.length_drop]; omega)
    rw [if_neg hshort, hgap, ← hzeros, List.append_assoc, ← List.drop_drop,
      List.take_append_drop, List.take_append_drop]

/-! ## Bounds -/

section Bounds

theorem numberIn?_lt {base : Nat} {digits : List Char} {n : Nat}
    (h : numberIn? base digits = some n) : n < base ^ digits.length := by
  induction digits using List.reverseRecOn generalizing n with
  | nil =>
    obtain rfl : 0 = n := Option.some.inj h
    simp
  | append_singleton digits c ih =>
    rw [numberIn?_concat] at h
    obtain ⟨m, hm, h⟩ := Option.bind_eq_some_iff.mp h
    obtain ⟨d, -, h⟩ := Option.bind_eq_some_iff.mp h
    split at h
    · next hd =>
      obtain rfl := Option.some.inj h
      have hle : (m + 1) * base ≤ base ^ digits.length * base := Nat.mul_le_mul_right base (ih hm)
      rw [List.length_append, List.length_singleton, Nat.pow_succ]
      rw [Nat.add_mul] at hle
      omega
    · contradiction

/-- Bytes put together make a number of as many bytes. -/
theorem foldl_bytes_lt {bytes : List Nat} (h : ∀ b ∈ bytes, b ≤ 255) :
    bytes.foldl (fun n b => n * 256 + b) 0 < 256 ^ bytes.length := by
  induction bytes using List.reverseRecOn with
  | nil => simp
  | append_singleton bytes b ih =>
    have hb := h b (by simp)
    have hfront := ih fun b' hb' => h b' (by simp [hb'])
    rw [List.foldl_append, List.length_append, List.length_singleton, Nat.pow_succ]
    show _ * 256 + b < _
    omega

/-- An IPv4 address has 32 bits. -/
theorem lt_of_ipv4? {name : List Char} {a : Nat} (h : ipv4? name = some a) : a < 4294967296 := by
  obtain ⟨numbers, -, h⟩ := Option.bind_eq_some_iff.mp h
  obtain ⟨last, -, h⟩ := Option.bind_eq_some_iff.mp h
  dsimp only at h
  split_ifs at h with hcount hlast hbytes
  have hbyte : ∀ b ∈ numbers.dropLast, b ≤ 255 := fun b hb => by
    refine Nat.le_of_not_lt fun hgreat => hbytes (List.any_eq_true.mpr ⟨b, hb, ?_⟩)
    simpa using hgreat
  have hlt := foldl_bytes_lt hbyte
  obtain rfl := Option.some.inj h
  generalize numbers.dropLast = bytes at *
  generalize bytes.foldl (fun n b => n * 256 + b) 0 = high at *
  have hpow : 256 ^ bytes.length * 256 ^ (4 - bytes.length) = 4294967296 := by
    rw [← Nat.pow_add, Nat.add_sub_cancel' (by omega)]
  have hle : (high + 1) * 256 ^ (4 - bytes.length) ≤ 4294967296 := by
    rw [← hpow]
    exact Nat.mul_le_mul_right _ hlt
  rw [Nat.add_mul] at hle
  have hlast : last < 256 ^ (4 - bytes.length) := Nat.lt_of_not_le hlast
  show high * 256 ^ (4 - bytes.length) + last < _
  omega

theorem arePieces_concat (hdone : ArePieces done) (hp : p < 65536) : ArePieces (done ++ [p]) := by
  intro q hq
  rcases List.mem_append.mp hq with hfront | hlast
  · exact hdone q hfront
  · obtain rfl : q = p := by simpa using hlast
    exact hp

theorem embeddedPieces?_spec {s : List Char} {embedded : List Nat}
    (h : embeddedPieces? s = some embedded) : embedded.length = 2 ∧ ArePieces embedded := by
  obtain ⟨numbers, hnumbers, h⟩ := Option.bind_eq_some_iff.mp h
  have hbyte : ∀ b ∈ numbers, b ≤ 255 := by
    intro b hb
    obtain ⟨digits, -, hdigits⟩ := exists_of_mem_mapM hnumbers hb
    unfold decimalByte? at hdigits
    split_ifs at hdigits
    split at hdigits
    · split_ifs at hdigits with hle
      exact Option.some.inj hdigits ▸ hle
    · contradiction
  split at h
  · next a b c d =>
    obtain rfl := Option.some.inj h
    have ha := hbyte a (by simp)
    have hb := hbyte b (by simp)
    have hc := hbyte c (by simp)
    have hd := hbyte d (by simp)
    refine ⟨rfl, ?_⟩
    simp [ArePieces]
    omega
  · contradiction

/-- Up to four digits are read as one piece. -/
theorem piece_lt (s : List Char) :
    (numberIn? 16 ((s.take 4).takeWhile fun c => (hexValue? c).isSome)).getD 0 < 65536 := by
  have hshort : ((s.take 4).takeWhile fun c => (hexValue? c).isSome).length ≤ 4 :=
    Nat.le_trans (List.takeWhile_prefix _).length_le (List.length_take_le 4 s)
  cases hnumber : numberIn? 16 ((s.take 4).takeWhile fun c => (hexValue? c).isSome) with
  | none => simp
  | some n =>
    have hpow := Nat.pow_le_pow_right (show 0 < 16 by decide) hshort
    exact Nat.lt_of_lt_of_le (numberIn?_lt hnumber) hpow

theorem piecesRead_append (done pieces : List Nat) (gap : Option Nat) :
    piecesRead (done ++ pieces) gap = piecesRead done gap + pieces.length := by
  simp only [piecesRead, List.length_append]
  omega

/-- What is read of an IPv6 address are eight pieces at most, a gap counting as one. -/
theorem ipv6From_spec {s : List Char} {read : List Nat × Option Nat} (hdone : ArePieces done)
    (hcount : piecesRead done gap ≤ 8) (h : ipv6From bound done gap s = some read) :
    ArePieces read.1 ∧ piecesRead read.1 read.2 ≤ 8 := by
  -- Pieces and gap never count more than eight: each branch that adds one has made sure of room.
  induction bound generalizing done gap s with
  | zero =>
    obtain rfl := Option.some.inj h
    exact ⟨hdone, hcount⟩
  | succ bound ih =>
    unfold ipv6From at h
    dsimp only at h
    have hnext := arePieces_concat hdone (piece_lt s)
    rw [show (done.length + if gap.isSome = true then 1 else 0) = piecesRead done gap from rfl] at h
    generalize (s.take 4).takeWhile (fun c => (hexValue? c).isSome) = digits at *
    generalize (numberIn? 16 digits).getD 0 = piece at *
    split at h
    · obtain rfl := Option.some.inj h
      exact ⟨hdone, hcount⟩
    split at h
    · contradiction
    have hroom : piecesRead done gap < 8 := by omega
    split at h
    · split at h
      · contradiction
      · next hgap =>
        refine ih hdone ?_ h
        simp [piecesRead, hgap] at hroom ⊢
        omega
    · split at h
      · obtain rfl := Option.some.inj h
        exact ⟨hnext, by rw [piecesRead_append]; exact hroom⟩
      · split at h
        · contradiction
        · next hdot =>
          obtain ⟨embedded, hembedded, h⟩ := Option.bind_eq_some_iff.mp h
          obtain ⟨hlength, hsmall⟩ := embeddedPieces?_spec hembedded
          obtain rfl := Option.some.inj h
          refine ⟨fun q hq => (List.mem_append.mp hq).elim (hdone q) (hsmall q), ?_⟩
          have hlow : piecesRead done gap ≤ 6 := by
            simp at hdot
            omega
          show piecesRead (done ++ embedded) gap ≤ 8
          rw [piecesRead_append, hlength]
          omega
      · split at h
        · contradiction
        · exact ih hnext (by rw [piecesRead_append]; exact hroom) h
      · contradiction

theorem filled?_spec {read : List Nat × Option Nat} (hsmall : ArePieces read.1)
    (hcount : piecesRead read.1 read.2 ≤ 8) (h : filled? read = some pieces) :
    pieces.length = 8 ∧ ArePieces pieces := by
  obtain ⟨read, gap⟩ := read
  cases gap with
  | none =>
    simp only [filled?] at h
    split_ifs at h with hlength
    obtain rfl := Option.some.inj h
    exact ⟨hlength, hsmall⟩
  | some n =>
    obtain rfl := Option.some.inj h
    refine ⟨?_, fun p hp => ?_⟩
    · have hlength : (read.take n).length + (read.drop n).length = read.length := by
        rw [← List.length_append, List.take_append_drop]
      simp [piecesRead] at hcount
      rw [List.length_append, List.length_append, List.length_replicate]
      omega
    · rcases List.mem_append.mp hp with hp | hback
      · rcases List.mem_append.mp hp with hfront | hzero
        · exact hsmall p (List.mem_of_mem_take hfront)
        · rw [List.eq_of_mem_replicate hzero]
          decide
      · exact hsmall p (List.mem_of_mem_drop hback)

/-- An IPv6 address has eight pieces of 16 bits. -/
theorem ipv6?_spec {s : List Char} (h : ipv6? s = some pieces) :
    pieces.length = 8 ∧ ArePieces pieces := by
  have hread : ∀ {bound gap s}, piecesRead [] gap ≤ 8 →
      (ipv6From bound [] gap s).bind filled? = some pieces →
      pieces.length = 8 ∧ ArePieces pieces := by
    intro bound gap s hgap h
    obtain ⟨read, hread, h⟩ := Option.bind_eq_some_iff.mp h
    obtain ⟨hsmall, hcount⟩ := ipv6From_spec (by simp [ArePieces]) hgap hread
    exact filled?_spec hsmall hcount h
  cases s with
  | nil => contradiction
  | cons c s =>
    by_cases hc : c = ':'
    · subst hc
      cases s with
      | nil => contradiction
      | cons c s =>
        by_cases hc : c = ':'
        · subst hc
          rw [ipv6?_of_gap] at h
          exact hread (by decide) h
        · simp [ipv6?, hc] at h
    · rw [ipv6?_of_head (by simpa using hc) (by simp)] at h
      exact hread (by decide) h

end Bounds

end EdgeRender.Url
