import EdgeRender.Url.Parser
import EdgeRender.Proofs.Idna.Ascii
import EdgeRender.Proofs.Url.Address
import EdgeRender.Proofs.Url.Percent

/-! # Hosts are read back

The text of a host that has been read is read as the same host. Of a domain name this is so if
the name is its own ASCII form, which a name without encoded labels is.
-/
namespace EdgeRender.Url

open EdgeRender.Text EdgeRender.Text.Utf8 EdgeRender.Idna

/-- A visible ASCII character that may stand in any host. -/
def IsHostChar (c : Char) : Prop :=
  0x20 < c.toNat ∧ c.toNat < 0x7F ∧ isForbiddenInOpaque c = false

instance (c : Char) : Decidable (IsHostChar c) := inferInstanceAs (Decidable (_ ∧ _ ∧ _))

theorem isHostChar_of_isNameChar {c : Char} (h : IsNameChar c) : IsHostChar c :=
  forall_ascii (P := fun c => IsNameChar c → IsHostChar c) (by decide) h.1 h

/-- What is known of a host that was read, under a special scheme or under another one. -/
def Host.IsRead (special : Bool) : Host → Prop
  | .named name =>
    name ≠ [] ∧ (∀ c ∈ name, IsHostChar c) ∧ (special = true → endsInNumber name = false)
  | .ipv4 address => special = true ∧ address < 4294967296
  | .ipv6 pieces => pieces.length = 8 ∧ ArePieces pieces

variable {s name : List Char} {host : Host} {special : Bool}

theorem isRead_of_bracketed (h : bracketed s = .ok host) : host.IsRead special := by
  unfold bracketed at h
  split_ifs at h
  split at h
  · next hpieces =>
    obtain rfl := Except.ok.inj h
    exact ipv6?_spec hpieces
  · contradiction

theorem isRead_of_domainHost (h : domainHost s = .ok host) : host.IsRead true := by
  unfold domainHost at h
  split_ifs at h
  · exact isRead_of_bracketed h
  · split at h
    · contradiction
    · next name hname =>
      split_ifs at h with hempty hnumber
      · split at h
        · next haddress =>
          obtain rfl := Except.ok.inj h
          exact ⟨rfl, lt_of_ipv4? haddress⟩
        · contradiction
      · obtain rfl := Except.ok.inj h
        refine ⟨by simpa using hempty, fun c hc => ?_, fun _ => by simpa using hnumber⟩
        unfold domainOf? at hname
        split at hname
        · exact isHostChar_of_isNameChar (isNameChar_of_mem_toAscii? hname hc)
        · contradiction

theorem isRead_of_opaqueHost (hne : s ≠ []) (h : opaqueHost s = .ok host) : host.IsRead false := by
  unfold opaqueHost at h
  split_ifs at h with hbracket hforbidden
  · exact isRead_of_bracketed h
  · obtain rfl := Except.ok.inj h
    refine ⟨percentEncode_ne_nil hne, fun c hc => ?_, by simp⟩
    rcases mem_percentEncode hc with hpercent | ⟨hmem, hascii, hcontrol⟩
    · have hall : ∀ c ∈ percentChars, IsHostChar c := forall_mem_of_all (by decide)
      exact hall c hpercent
    · have hfree : isForbiddenInOpaque c = false :=
        Bool.eq_false_iff.mpr fun hbad => hforbidden (List.any_eq_true.mpr ⟨c, hmem, hbad⟩)
      exact forall_ascii
        (P := fun c => isControl c = false → isForbiddenInOpaque c = false → IsHostChar c)
        (by decide) hascii hcontrol hfree

/-! ## The text of a host -/

/-- A visible ASCII character that ends no host and no user name, and marks no drive. -/
def IsHostTextChar (c : Char) : Prop :=
  0x20 < c.toNat ∧ c.toNat < 0x7F ∧ c ∉ "#/?@\\|".toList

instance (c : Char) : Decidable (IsHostTextChar c) := inferInstanceAs (Decidable (_ ∧ _ ∧ _))

theorem isHostTextChar_of_isHostChar {c : Char} (h : IsHostChar c) : IsHostTextChar c :=
  forall_ascii (P := fun c => IsHostChar c → IsHostTextChar c) (by decide)
    (Nat.lt_trans h.2.1 (by decide)) h

theorem isHostTextChar_of_mem_toDigits {b n : Nat} (hb : 1 < b) (hle : b ≤ 16) {c : Char}
    (h : c ∈ Nat.toDigits b n) : IsHostTextChar c ∧ c ≠ ':' ∧ c ≠ '[' ∧ c ≠ ']' := by
  have hall : ∀ d : Fin 16, IsHostTextChar d.val.digitChar ∧ d.val.digitChar ≠ ':' ∧
      d.val.digitChar ≠ '[' ∧ d.val.digitChar ≠ ']' := by decide
  obtain ⟨d, hd, rfl⟩ := exists_of_mem_toDigits hb h
  exact hall ⟨d, by omega⟩

theorem mem_ipv4Text {a : Nat} {c : Char} (h : c ∈ ipv4Text a) :
    IsHostTextChar c ∧ c ≠ ':' ∧ c ≠ '[' := by
  rcases mem_joinWith h with rfl | ⟨part, hpart, hc⟩
  · decide
  · obtain ⟨b, -, rfl⟩ := List.mem_map.mp hpart
    obtain ⟨htext, hcolon, hopen, -⟩ :=
      isHostTextChar_of_mem_toDigits (by decide) (by decide) hc
    exact ⟨htext, hcolon, hopen⟩

theorem mem_piecesText {pieces : List Nat} {c : Char} (h : c ∈ piecesText pieces) :
    IsHostTextChar c ∧ c ≠ ']' := by
  rcases mem_joinWith h with rfl | ⟨part, hpart, hc⟩
  · decide
  · obtain ⟨p, -, rfl⟩ := List.mem_map.mp hpart
    obtain ⟨htext, -, -, hclose⟩ := isHostTextChar_of_mem_toDigits (by decide) (by decide) hc
    exact ⟨htext, hclose⟩

theorem mem_ipv6Text {pieces : List Nat} {c : Char} (h : c ∈ ipv6Text pieces) :
    IsHostTextChar c ∧ c ≠ ']' := by
  unfold ipv6Text at h
  dsimp only at h
  split at h
  · exact mem_piecesText h
  · rcases List.mem_append.mp h with h | hback
    · rcases List.mem_append.mp h with hfront | hgap
      · exact mem_piecesText hfront
      · obtain rfl : c = ':' := by simpa using hgap
        decide
    · exact mem_piecesText hback

theorem Host.IsRead.text_chars (h : host.IsRead special) : ∀ c ∈ host.text, IsHostTextChar c := by
  intro c hc
  cases host with
  | named name => exact isHostTextChar_of_isHostChar (h.2.1 c hc)
  | ipv4 a => exact (mem_ipv4Text hc).1
  | ipv6 pieces =>
    rcases (by simpa [Host.text] using hc : _ ∨ _ ∨ _) with rfl | hmem | rfl
    · decide
    · exact (mem_ipv6Text hmem).1
    · decide

theorem Host.IsRead.text_ne_nil (h : host.IsRead special) : host.text ≠ [] := by
  cases host with
  | named name => exact h.1
  | ipv4 a => simp [Host.text, ipv4Text, joinWith]
  | ipv6 pieces => simp [Host.text]

/-- The text of a host is no drive letter. -/
theorem Host.IsRead.isDriveLetter_text (h : host.IsRead special) :
    isDriveLetter host.text = false := by
  refine Bool.eq_false_iff.mpr fun hdrive => ?_
  unfold isDriveLetter isDriveLike at hdrive
  split at hdrive
  · next letter mark rest htext =>
    simp only [Bool.and_eq_true, Bool.or_eq_true, beq_iff_eq] at hdrive
    obtain ⟨-, ⟨halpha, hmark⟩, -⟩ := hdrive
    have hmem : mark ∈ host.text := by simp [htext]
    have hcolon : mark = ':' := by
      rcases hmark with rfl | rfl
      · rfl
      · exact absurd (h.text_chars _ hmem) (by decide)
    subst hcolon
    cases host with
    | named name => exact absurd (h.2.1 ':' hmem) (by decide)
    | ipv4 a => exact (mem_ipv4Text hmem).2.1 rfl
    | ipv6 pieces =>
      obtain rfl : '[' = letter := (List.cons.inj htext).1
      contradiction
  · simp at hdrive

/-- A visible character of a host ends no authority. -/
theorem not_endsAuthority {c : Char} (h : IsHostTextChar c) (special : Bool) :
    endsAuthority special c = false := by
  have hall := forall_ascii
    (P := fun c => IsHostTextChar c → ∀ special, endsAuthority special c = false)
    (by decide) (show c.toNat < 0x80 by have := h.2.1; omega)
  exact hall h special

/-! ## Finding the host in a text -/

/-- No part of a host stands in front: the text ends, or a port or what comes behind it begins. -/
def EndsHost (special : Bool) (rest : List Char) : Prop :=
  ∀ c ∈ rest.head?, c = ':' ∨ endsAuthority special c = true

theorem hostPrefix_end {rest : List Char} (h : EndsHost special rest) :
    hostPrefix special false rest = [] := by
  cases rest with
  | nil => rfl
  | cons c rest =>
    rw [hostPrefix]
    rcases h c rfl with rfl | hends
    · simp
    · simp [hends]

theorem hostPrefix_outside {s rest : List Char}
    (hs : ∀ c ∈ s, IsHostTextChar c ∧ c ≠ ':' ∧ c ≠ '[') :
    hostPrefix special false (s ++ rest) = s ++ hostPrefix special false rest := by
  induction s with
  | nil => rfl
  | cons c s ih =>
    obtain ⟨htext, hcolon, hopen⟩ := hs c (by simp)
    have hflag : (c == '[' || (false && c != ']')) = false := by simp [hopen]
    rw [List.cons_append, hostPrefix, if_neg (by simp [not_endsAuthority htext, hcolon]), hflag,
      ih fun c' hc' => hs c' (by simp [hc'])]
    rfl

theorem hostPrefix_inside {s rest : List Char} (hs : ∀ c ∈ s, IsHostTextChar c ∧ c ≠ ']') :
    hostPrefix special true (s ++ ']' :: rest) = s ++ ']' :: hostPrefix special false rest := by
  induction s with
  | nil =>
    rw [List.nil_append, hostPrefix, if_neg (by cases special <;> decide)]
    rfl
  | cons c s ih =>
    obtain ⟨htext, hclose⟩ := hs c (by simp)
    have hflag : (c == '[' || (true && c != ']')) = true := by simp [hclose]
    rw [List.cons_append, hostPrefix, if_neg (by simp [not_endsAuthority htext]), hflag,
      ih fun c' hc' => hs c' (by simp [hc'])]
    rfl

/-- The text of a host is found in front of what ends it. -/
theorem Host.IsRead.hostPrefix_text (h : host.IsRead special) {rest : List Char}
    (hrest : EndsHost special rest) : hostPrefix special false (host.text ++ rest) = host.text := by
  have hend := hostPrefix_end hrest
  cases host with
  | named name =>
    have hchars : ∀ c ∈ name, IsHostTextChar c ∧ c ≠ ':' ∧ c ≠ '[' := by
      intro c hc
      have hhost := h.2.1 c hc
      refine ⟨isHostTextChar_of_isHostChar hhost, ?_, ?_⟩ <;> rintro rfl <;>
        exact absurd hhost (by decide)
    rw [Host.text, hostPrefix_outside hchars, hend, List.append_nil]
  | ipv4 a =>
    rw [Host.text, hostPrefix_outside fun c hc => mem_ipv4Text hc, hend, List.append_nil]
  | ipv6 pieces =>
    have hopen : endsAuthority special '[' = false := by cases special <;> rfl
    have htext : (Host.ipv6 pieces).text ++ rest = '[' :: (ipv6Text pieces ++ ']' :: rest) := by
      simp [Host.text]
    rw [htext, hostPrefix, if_neg (by simp [hopen])]
    show '[' :: hostPrefix special true (ipv6Text pieces ++ ']' :: rest) = _
    rw [hostPrefix_inside fun c hc => mem_ipv6Text hc, hend]
    rfl

/-! ## Names that are their own ASCII form -/

theorem percentDecodeFrom_of_not_mem {bytes : List UInt8} (h : '%'.toUInt8 ∉ bytes) :
    percentDecodeFrom bytes = bytes := by
  fun_induction percentDecodeFrom bytes with
  | case1 => rfl
  | case2 high low rest' d₁ d₂ h₁ h₂ ih => simp at h
  | case3 b high low rest' d₁ d₂ h₁ h₂ hb ih =>
    rw [ih fun hmem => h (List.mem_cons_of_mem b hmem)]
  | case4 b high low rest' h₁ ih => rw [ih fun hmem => h (List.mem_cons_of_mem b hmem)]
  | case5 b rest hrest ih => rw [ih fun hmem => h (List.mem_cons_of_mem b hmem)]

/-- A character that stands in its own ASCII form. -/
def IsPlainChar (c : Char) : Prop := IsNameChar c ∧ c.toLower = c

theorem percentDecode_of_isNameChar (hname : ∀ c ∈ name, IsNameChar c) :
    percentDecode name = Utf8.encode name := by
  refine percentDecodeFrom_of_not_mem fun hmem => ?_
  obtain ⟨c, hc, hb⟩ := List.mem_flatMap.mp hmem
  have hchar := hname c hc
  rw [Utf8.utf8EncodeChar_of_lt hchar.1, List.mem_singleton] at hb
  exact forall_ascii (P := fun c => IsNameChar c → '%'.toUInt8 ≠ UInt8.ofNat c.toNat) (by decide)
    hchar.1 hchar hb

/-- A name without capitals and encoded labels is its own ASCII form. -/
theorem domainOf?_of_plain (hname : ∀ c ∈ name, IsPlainChar c)
    (hlabels : ∀ label ∈ splitAt '.' name, encodedMark.isPrefixOf label = false) :
    domainOf? name = some name := by
  have hlower : name.map Char.toLower = name := by
    conv_rhs => rw [← List.map_id name]
    exact List.map_congr_left fun c hc => (hname c hc).2
  have hascii : name.all isAscii = true := List.all_eq_true.mpr fun c hc => by
    simpa [isAscii, UInt32.lt_iff_toNat_lt] using (hname c hc).1.1
  have hplain : isPlain name = true := by
    rw [isPlain, hascii, hlower]
    simpa using hlabels
  have hallowed : name.any isForbidden = false := List.any_eq_false.mpr fun c hc => by
    simp [(hname c hc).1.2]
  rw [domainOf?, percentDecode_of_isNameChar fun c hc => (hname c hc).1, Utf8.decode_encode]
  dsimp only
  rw [toAscii?, if_pos hplain]
  dsimp only
  rw [hlower, hallowed, if_neg (by decide)]

theorem domainOf?_ipv4Text (a : Nat) : domainOf? (ipv4Text a) = some (ipv4Text a) := by
  have hdigit : ∀ d : Fin 10, IsPlainChar d.val.digitChar ∧ d.val.digitChar ≠ 'x' := by
    unfold IsPlainChar
    decide
  have hpart : ∀ part ∈ (ipv4Bytes a).map (Nat.toDigits 10), ∀ c ∈ part,
      IsPlainChar c ∧ c ≠ 'x' := by
    intro part hpart c hc
    obtain ⟨b, -, rfl⟩ := List.mem_map.mp hpart
    obtain ⟨d, hd, rfl⟩ := exists_of_mem_toDigits (by decide) hc
    exact hdigit ⟨d, hd⟩
  refine domainOf?_of_plain (fun c hc => ?_) fun label hlabel => ?_
  · rcases mem_joinWith hc with rfl | ⟨part, hmem, hc⟩
    · unfold IsPlainChar
      decide
    · exact (hpart part hmem c hc).1
  · rw [splitAt_ipv4Text] at hlabel
    refine Bool.eq_false_iff.mpr fun hmark => ?_
    have hx : 'x' ∈ label := (List.isPrefixOf_iff_prefix.mp hmark).subset (by decide)
    exact (hpart label hlabel 'x' hx).2 rfl

/-! ## Reading a host again -/

theorem bracketed_text {pieces : List Nat} (hlength : pieces.length = 8)
    (hpieces : ArePieces pieces) : bracketed (Host.ipv6 pieces).text = .ok (.ipv6 pieces) := by
  have htext : (Host.ipv6 pieces).text = ('[' :: ipv6Text pieces) ++ [']'] := rfl
  have hlast : (Host.ipv6 pieces).text.getLast? = some ']' := by
    rw [htext]
    exact List.getLast?_concat
  have hinside : ((Host.ipv6 pieces).text.drop 1).dropLast = ipv6Text pieces := by
    simp [Host.text]
  rw [bracketed, if_pos hlast, hinside, ipv6?_ipv6Text hlength hpieces]

theorem head?_ne_bracket {s : List Char} (h : '[' ∉ s) : s.head? ≠ some '[' :=
  fun hhead => h (List.mem_of_mem_head? hhead)

theorem bracket_not_mem (h : ∀ c ∈ name, IsHostChar c) : '[' ∉ name :=
  fun hmem => absurd (h '[' hmem) (by decide)

/-- The text of a host under another scheme is read as the host. -/
theorem Host.IsRead.opaqueHost_text (h : host.IsRead false) : opaqueHost host.text = .ok host := by
  cases host with
  | named name =>
    obtain ⟨-, hchars, -⟩ := h
    have hallowed : name.any isForbiddenInOpaque = false := List.any_eq_false.mpr fun c hc => by
      simp [(hchars c hc).2.2]
    have hclean : Clean isControl name := by
      intro c hc
      have hchar := hchars c hc
      have hascii : c.toNat < 0x80 := by
        have := hchar.2.1
        omega
      exact ⟨hascii, forall_ascii (P := fun c => IsHostChar c → isControl c = false) (by decide)
        hascii hchar⟩
    rw [Host.text, opaqueHost, if_neg (head?_ne_bracket (bracket_not_mem hchars)), hallowed,
      if_neg (by decide), percentEncode_of_clean hclean]
  | ipv4 a => exact absurd h.1 (by decide)
  | ipv6 pieces =>
    have hopen : (Host.ipv6 pieces).text.head? = some '[' := rfl
    rw [opaqueHost, if_pos hopen]
    exact bracketed_text h.1 h.2

/-- Is a domain name its own ASCII form? -/
def Host.IsSteady : Host → Prop
  | .named name => domainOf? name = some name
  | .ipv4 _ | .ipv6 _ => True

/-- The text of a host under a special scheme is read as the host, if a domain name is its own
ASCII form. -/
theorem Host.IsRead.domainHost_text (h : host.IsRead true) (hsteady : host.IsSteady) :
    domainHost host.text = .ok host := by
  cases host with
  | named name =>
    obtain ⟨hne, hchars, hnumber⟩ := h
    have hdomain : domainOf? name = some name := hsteady
    rw [Host.text, domainHost, if_neg (head?_ne_bracket (bracket_not_mem hchars)), hdomain]
    dsimp only
    rw [if_neg (by simpa using hne), hnumber rfl, if_neg (by decide)]
  | ipv4 a =>
    have hopen : '[' ∉ ipv4Text a := fun hmem => (mem_ipv4Text hmem).2.2 rfl
    have hne : ipv4Text a ≠ [] := Host.IsRead.text_ne_nil h
    rw [Host.text, domainHost, if_neg (head?_ne_bracket hopen), domainOf?_ipv4Text]
    dsimp only
    rw [if_neg (by simpa using hne), endsInNumber_ipv4Text, if_pos rfl, ipv4?_ipv4Text h.2]
  | ipv6 pieces =>
    have hopen : (Host.ipv6 pieces).text.head? = some '[' := rfl
    rw [domainHost, if_pos hopen]
    exact bracketed_text h.1 h.2

/-- A host that is read as itself under a special scheme is steady. -/
theorem Host.isSteady_of_domainHost_text (h : domainHost host.text = .ok host) : host.IsSteady := by
  cases host with
  | named name =>
    rw [Host.text, domainHost] at h
    split at h
    · unfold bracketed at h
      split_ifs at h
      split at h <;> simp at h
    · split at h
      · contradiction
      · next name' hdomain =>
        split_ifs at h
        · split at h <;> simp at h
        · obtain rfl : name' = name := by simpa using h
          exact hdomain
  | ipv4 a => trivial
  | ipv6 pieces => trivial

end EdgeRender.Url
