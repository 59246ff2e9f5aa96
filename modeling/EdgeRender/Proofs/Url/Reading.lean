import EdgeRender.Proofs.Url.Authority

/-! # The parts of a URL

What is known of the parts of a URL that was read, and that they are found again where they are
written one behind another. All their characters are visible, and none begins a fragment.
-/
namespace EdgeRender.Url

open EdgeRender.Text EdgeRender.Text.Utf8

/-! ## The parts of a URL that was read -/

/-- What is known of a URL that was read. -/
structure IsRead (kind : SchemeKind) (u : Url) : Prop where
  username : Clean escapedInUserInfo u.username
  password : Clean escapedInUserInfo u.password
  host : u.host.IsRead kind.isSpecial
  port : ∀ port, u.port = some port → port ≤ 65535 ∧ kind ≠ .special port
  segments : ∀ s ∈ u.segments, IsCut kind.isSpecial s
  query : ∀ query, u.query = some query → Clean (queryEscapes kind.isSpecial) query

/-- What is known of its segments, if none of them is left to be resolved. -/
structure IsResolved (kind : SchemeKind) (u : Url) : Prop where
  segments : ∀ s ∈ u.segments, IsSegment kind.isSpecial s
  nonempty : kind.isSpecial = true → u.segments ≠ []

variable {scheme s : List Char} {kind : SchemeKind} {u : Url}

theorem isRead_of_readHost {special : Bool} {hostText : List Char} {host : Host}
    (hne : hostText ≠ []) (h : readHost special hostText = .ok host) : host.IsRead special := by
  unfold readHost at h
  cases special with
  | true => exact isRead_of_domainHost h
  | false => exact isRead_of_opaqueHost hne h

theorem ReadsAuthority.isRead {behindUser behindPort : List Char}
    (h : ReadsAuthority kind s u behindUser behindPort) : u.IsRead kind ∧ u.IsResolved kind := by
  obtain ⟨husername, hpassword⟩ := clean_of_splitUserInfo h.user
  have hsegments : ∀ s ∈ u.segments, IsSegment kind.isSpecial s := by
    rw [h.segments]
    exact fun s => isSegment_of_mem_readSegments
  refine ⟨⟨husername, hpassword, isRead_of_readHost h.hostText h.host, fun port hport => ?_,
    fun s hs => (hsegments s hs).toIsCut, fun query hquery => ?_⟩, hsegments, fun hspecial => ?_⟩
  · exact port_of_splitPort (hport ▸ h.port)
  · exact clean_of_queryOf (h.query ▸ hquery)
  · rw [h.segments, hspecial]
    exact readSegments_ne_nil _

/-! ## Visible characters -/

/-- A visible ASCII character that begins no fragment. -/
def IsTextChar (c : Char) : Prop := 0x20 < c.toNat ∧ c.toNat < 0x7F ∧ c ≠ '#'

instance (c : Char) : Decidable (IsTextChar c) := inferInstanceAs (Decidable (_ ∧ _ ∧ _))

theorem isTextChar_of_clean {escaped : Char → Bool} {t : List Char} (h : Clean escaped t)
    (hescaped : ∀ n : Fin 0x80, escaped (.ofNat n.val) = false → IsTextChar (.ofNat n.val)) :
    ∀ c ∈ t, IsTextChar c := by
  intro c hc
  obtain ⟨hascii, hfree⟩ := h c hc
  exact forall_ascii (P := fun c => escaped c = false → IsTextChar c) hescaped hascii hfree

theorem isTextChar_of_isHostTextChar {c : Char} (h : IsHostTextChar c) : IsTextChar c :=
  ⟨h.1, h.2.1, fun hc => absurd (hc ▸ h) (by decide)⟩

def pathAndQuery (u : Url) : List Char := pathText u.segments ++ u.queryText

/-- What stands behind the slashes of the canonical text. -/
def authorityText (u : Url) : List Char :=
  u.userInfoText ++ (u.host.text ++ u.portText) ++ u.pathAndQuery

theorem text_eq (u : Url) : u.text = u.scheme ++ ':' :: '/' :: '/' :: u.authorityText := by
  simp [text, authorityText, pathAndQuery]

theorem isHostTextChar_of_mem_portText {c : Char} (h : c ∈ u.portText) : IsHostTextChar c := by
  unfold portText at h
  split at h
  · rcases List.mem_cons.mp h with rfl | hdigit
    · decide
    · exact (isHostTextChar_of_mem_toDigits (by decide) (by decide) hdigit).1
  · contradiction

theorem IsRead.hostAndPort_chars (h : u.IsRead kind) :
    ∀ c ∈ u.host.text ++ u.portText, IsHostTextChar c := by
  intro c hc
  rcases List.mem_append.mp hc with hmem | hmem
  · exact h.host.text_chars c hmem
  · exact isHostTextChar_of_mem_portText hmem

theorem IsRead.userInfo_chars (h : u.IsRead kind) : ∀ c ∈ u.userInfoText, IsTextChar c := by
  intro c hc
  cases hempty : u.username.isEmpty && u.password.isEmpty with
  | true =>
    have htext : u.userInfoText = [] := if_pos hempty
    rw [htext] at hc
    contradiction
  | false =>
    rw [userInfoText_eq hempty, credentials, List.append_assoc] at hc
    rcases List.mem_append.mp hc with hname | hrest
    · exact isTextChar_of_clean h.username (by decide) c hname
    · rcases List.mem_append.mp hrest with hword | hat
      · split at hword
        · contradiction
        · rcases List.mem_cons.mp hword with rfl | hword
          · decide
          · exact isTextChar_of_clean h.password (by decide) c hword
      · obtain rfl : c = '@' := by simpa using hat
        decide

theorem IsRead.query_chars (h : u.IsRead kind) : ∀ c ∈ u.queryText, IsTextChar c := by
  intro c hc
  unfold queryText at hc
  split at hc
  · next query hquery =>
    rcases List.mem_cons.mp hc with rfl | hmem
    · decide
    · refine isTextChar_of_clean (h.query query hquery) ?_ c hmem
      cases kind.isSpecial <;> decide
  · contradiction

/-- All that stands behind the slashes is visible, and no number sign. -/
theorem IsRead.authority_chars (h : u.IsRead kind) : ∀ c ∈ u.authorityText, IsTextChar c := by
  intro c hc
  rcases List.mem_append.mp hc with hc | hc
  · rcases List.mem_append.mp hc with huser | hhost
    · exact h.userInfo_chars c huser
    · exact isTextChar_of_isHostTextChar (h.hostAndPort_chars c hhost)
  · rcases List.mem_append.mp hc with hpath | hquery
    · rcases pathText_char (fun s hs => (h.segments s hs).clean) c hpath with rfl | ⟨hascii, hfree⟩
      · decide
      · exact forall_ascii (P := fun c => escapedInPath c = false → IsTextChar c) (by decide) hascii
          hfree
    · exact h.query_chars c hquery

/-! ## Reading the parts again -/

theorem endsAuthority_pathAndQuery (u : Url) (special : Bool) :
    EndsAuthority special u.pathAndQuery := by
  intro c hc
  rcases head?_pathText u.segments u.queryText (head?_queryText u) c hc with rfl | rfl <;>
    cases special <;> rfl

theorem IsRead.splitUserInfo_authorityText (h : u.IsRead kind) :
    splitUserInfo kind.isSpecial u.authorityText =
      .ok (u.username, u.password, u.host.text ++ u.portText ++ u.pathAndQuery) :=
  splitUserInfo_text h.username h.password h.hostAndPort_chars (endsAuthority_pathAndQuery u _)

theorem IsRead.hostPrefix_hostAndPort (h : u.IsRead kind) :
    hostPrefix kind.isSpecial false (u.host.text ++ u.portText ++ u.pathAndQuery) =
      u.host.text := by
  have hends : EndsHost kind.isSpecial (u.portText ++ u.pathAndQuery) := by
    intro c hc
    unfold portText at hc
    split at hc
    · exact .inl (Option.some.inj hc).symm
    · exact .inr (endsAuthority_pathAndQuery u _ c hc)
  rw [List.append_assoc]
  exact h.host.hostPrefix_text hends

/-- All parts are found again, if the host is. -/
theorem IsRead.readsAuthority_text (h : u.IsRead kind) (hresolved : u.IsResolved kind)
    (hhost : readHost kind.isSpecial u.host.text = .ok u.host) :
    ReadsAuthority kind u.authorityText u (u.host.text ++ u.portText ++ u.pathAndQuery)
      u.pathAndQuery := by
  have hfound := h.hostPrefix_hostAndPort
  have hsplit : splitPath u.pathAndQuery = (pathText u.segments, u.queryText) :=
    splitPath_text fun s hs => (h.segments s hs).clean
  refine ⟨h.splitUserInfo_authorityText, ?_, ?_, ?_, ?_, ?_⟩
  · rw [hfound]
    exact h.host.text_ne_nil
  · rw [hfound, hhost]
  · rw [hfound, List.append_assoc, List.drop_left]
    exact splitPort_text h.port (endsAuthority_pathAndQuery u true)
  · rw [hsplit, readSegments_pathText hresolved.segments hresolved.nonempty]
  · rw [hsplit, queryOf_text h.query]

/-- What is written behind the slashes is read as the same URL if the host is read as itself. -/
theorem IsRead.parseAuthority_text (h : u.IsRead kind) (hresolved : u.IsResolved kind) :
    parseAuthority u.scheme kind u.authorityText = .ok u ↔
      readHost kind.isSpecial u.host.text = .ok u.host := by
  constructor
  · intro hparse
    obtain ⟨-, behindUser, behindPort, hreads⟩ := readsAuthority_of_parse hparse
    have hbehind : behindUser = u.host.text ++ u.portText ++ u.pathAndQuery := by
      have huser := hreads.user.symm.trans h.splitUserInfo_authorityText
      simpa using Except.ok.inj huser
    have hhost := hreads.host
    rwa [hbehind, h.hostPrefix_hostAndPort] at hhost
  · intro hhost
    exact parse_of_readsAuthority (h.readsAuthority_text hresolved hhost)

/-! ## Schemes -/

structure IsScheme (scheme : List Char) : Prop where
  first : scheme.head?.any Char.isAlpha = true
  chars : ∀ c ∈ scheme, isSchemeChar c = true ∧ c.toLower = c

theorem isSchemeChar_ascii {c : Char} (h : isSchemeChar c = true) : c.toNat < 0x80 := by
  simp only [isSchemeChar, Bool.or_eq_true, beq_iff_eq] at h
  rcases h with ((halphanum | rfl) | rfl) | rfl
  · exact toNat_lt_of_isAlphanum halphanum
  · decide
  · decide
  · decide

theorem isScheme_of_splitScheme? {t rest : List Char} (h : splitScheme? t = some (scheme, rest)) :
    IsScheme scheme := by
  unfold splitScheme? at h
  dsimp only at h
  split at h
  · contradiction
  next halpha =>
    split at h
    · obtain ⟨rfl, -⟩ : _ = scheme ∧ _ = rest := by simpa using h
      constructor
      · cases t with
        | nil => simp at halpha
        | cons c t =>
          have hc : c.isAlpha = true := by simpa using halpha
          have hchar : isSchemeChar c = true := by simp [isSchemeChar, Char.isAlphanum, hc]
          rw [List.takeWhile_cons, if_pos hchar, List.map_cons]
          exact forall_ascii (P := fun c => c.isAlpha = true → c.toLower.isAlpha = true) (by decide)
            (isSchemeChar_ascii hchar) hc
      · intro c hc
        obtain ⟨c', hc', rfl⟩ := List.mem_map.mp hc
        have hchar : isSchemeChar c' = true := List.all_eq_true.mp List.all_takeWhile c' hc'
        exact forall_ascii
          (P := fun c => isSchemeChar c = true →
            isSchemeChar c.toLower = true ∧ c.toLower.toLower = c.toLower)
          (by decide) (isSchemeChar_ascii hchar) hchar
    · contradiction

theorem IsScheme.text_chars (h : IsScheme scheme) : ∀ c ∈ scheme, IsTextChar c := by
  intro c hc
  have hchar := (h.chars c hc).1
  exact forall_ascii (P := fun c => isSchemeChar c = true → IsTextChar c) (by decide)
    (isSchemeChar_ascii hchar) hchar

/-- The scheme is found again in front of its colon. -/
theorem IsScheme.splitScheme?_text (h : IsScheme scheme) (rest : List Char) :
    splitScheme? (scheme ++ ':' :: rest) = some (scheme, rest) := by
  have hscheme : (scheme ++ ':' :: rest).takeWhile isSchemeChar = scheme :=
    takeWhile_append_of_head (fun c hc => (h.chars c hc).1) (by rintro _ ⟨⟩; decide)
  have halpha : (scheme ++ ':' :: rest).head?.any Char.isAlpha = true := by
    have hfirst := h.first
    cases scheme with
    | nil => contradiction
    | cons c scheme => exact hfirst
  have hlower : scheme.map Char.toLower = scheme :=
    (List.map_congr_left fun c hc => (h.chars c hc).2).trans (List.map_id _)
  rw [splitScheme?, hscheme, halpha, Bool.not_true, if_neg (by decide), List.drop_left]
  show some (scheme.map Char.toLower, rest) = _
  rw [hlower]

/-! ## Authorities -/

/-- The part in front of the path, which nothing ends. -/
theorem IsRead.front_chars (h : u.IsRead kind) (special : Bool) :
    ∀ c ∈ u.userInfoText ++ (u.host.text ++ u.portText), endsAuthority special c = false := by
  intro c hc
  rcases List.mem_append.mp hc with huser | hc
  · cases hempty : u.username.isEmpty && u.password.isEmpty with
    | true =>
      have htext : u.userInfoText = [] := if_pos hempty
      rw [htext] at huser
      contradiction
    | false =>
      rw [userInfoText_eq hempty] at huser
      rcases List.mem_append.mp huser with hmem | hat
      · exact credentials_char h.username h.password special hmem
      · obtain rfl : c = '@' := by simpa using hat
        cases special <;> rfl
  · exact not_endsAuthority (h.hostAndPort_chars c hc) special

/-- No slash stands in front of what is behind the slashes. -/
theorem IsRead.dropWhile_authorityText (h : u.IsRead kind) :
    u.authorityText.dropWhile (isSlash true) = u.authorityText := by
  have hne : u.userInfoText ++ (u.host.text ++ u.portText) ≠ [] := by
    simp [h.host.text_ne_nil]
  obtain ⟨c, front, hfront⟩ := List.exists_cons_of_ne_nil hne
  have hends : endsAuthority true c = false := h.front_chars true c (by simp [hfront])
  have hslash : isSlash true c = false := by
    simp only [endsAuthority, Bool.or_eq_false_iff] at hends
    exact hends.1.1
  rw [authorityText, hfront, List.cons_append, List.dropWhile_cons, hslash, if_neg (by decide)]

end EdgeRender.Url
