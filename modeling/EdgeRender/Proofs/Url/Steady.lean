import EdgeRender.Proofs.Text.Trim
import EdgeRender.Proofs.Url.Reading

/-! # URLs are read back

The canonical text of a URL that was read consists of visible characters without a number sign.
It is read as the same URL if, and only if, the URL is steady: its domain name is its own ASCII
form, and a path of the scheme `file` does not begin with a drive letter.
-/
namespace EdgeRender.Url

open EdgeRender.Text

/-- How the scheme of a URL is read. -/
def kind (u : Url) : SchemeKind := .ofScheme u.scheme

variable {scheme s : List Char} {u : Url}

/-! ## Files -/

/-- What is known of a `file` URL that was read, besides. -/
structure IsFile (u : Url) : Prop where
  username : u.username = []
  password : u.password = []
  port : u.port = none
  notLocal : u.host ≠ .named "localhost".toList
  segments : AreFileSegments u.segments
  nonempty : u.segments ≠ []
  trimmed : dropEmptyAhead u.segments = u.segments

theorem IsFile.eq (h : u.IsFile) :
    { scheme := u.scheme, host := u.host, query := u.query, segments := u.segments } = u := by
  obtain ⟨scheme, username, password, host, port, segments, query⟩ := u
  obtain ⟨rfl, rfl, rfl, -, -, -, -⟩ := h
  rfl

theorem host_of_fileHost? {hostText : List Char} {host : Host}
    (h : fileHost? hostText = .ok (some host)) :
    domainHost hostText = .ok host ∧ host ≠ .named "localhost".toList := by
  unfold fileHost? at h
  split at h
  · cases h
  · obtain ⟨read, hread, h⟩ := ok_of_bind h
    split at h
    · cases h
    · next hlocal =>
      obtain rfl : read = host := by simpa using Except.ok.inj h
      exact ⟨hread, hlocal⟩

theorem isRead_of_parseFile (h : parseFile scheme s = .ok u) :
    u.scheme = scheme ∧ u.IsRead .file ∧ u.IsFile := by
  unfold parseFile at h
  dsimp only at h
  split at h
  · contradiction
  obtain ⟨found, hhost, h⟩ := ok_of_bind h
  cases found with
  | none => contradiction
  | some host =>
    dsimp only at h
    split at h
    · contradiction
    · next segments hsegments =>
      obtain rfl := Except.ok.inj h
      obtain ⟨hdomain, hlocal⟩ := host_of_fileHost? hhost
      have hfile := (areFileSegments_of_resolve? (by simp)
        (fun s hs => noSlash_of_mem_segmentsOf hs) hsegments).dropEmptyAhead
      refine ⟨rfl, ⟨by simp [Clean], by simp [Clean], isRead_of_domainHost hdomain, by simp,
        hfile.cut, fun query hquery => clean_of_queryOf hquery⟩, rfl, rfl, rfl, hlocal, hfile, ?_,
        dropEmptyAhead_idem segments⟩
      exact dropEmptyAhead_ne_nil
        (resolveFileSegments?_ne_nil (segmentsOf_ne_nil true _) hsegments)

theorem isIgnored_of_isTextChar {c : Char} (h : IsTextChar c) : isIgnored c = false := by
  have hascii : c.toNat < 0x80 := Nat.lt_trans h.2.1 (by decide)
  exact Utf8.forall_ascii (P := fun c => IsTextChar c → isIgnored c = false) (by decide) hascii h

/-- A host that is not local is read for a `file` scheme as for any special one. -/
theorem fileHost?_text {host : Host} (h : host.IsRead true)
    (hlocal : host ≠ .named "localhost".toList) :
    fileHost? host.text = .ok (some host) ↔ domainHost host.text = .ok host := by
  refine ⟨fun hfile => (host_of_fileHost? hfile).1, fun hdomain => ?_⟩
  have hempty : (host.text.isEmpty || isDriveLetter host.text) = false := by
    simp [h.text_ne_nil, h.isDriveLetter_text]
  rw [fileHost?, hempty, if_neg (by decide), hdomain, ok_bind, if_neg hlocal]
  rfl

/-- A URL with a host in the place of its own, and its segments resolved again. -/
def withFileHost (u : Url) : Option Host → Except Fault Url
  | none => .error .noHost
  | some host =>
    match resolveFileSegments? [] u.segments with
    | none => .error .noHost
    | some segments =>
      .ok { scheme := u.scheme, host, query := u.query, segments := dropEmptyAhead segments }

/-- How what is written behind a `file` scheme is read. -/
theorem IsRead.parseFile_eq (h : u.IsRead .file) (hfile : u.IsFile) :
    parseFile u.scheme ('/' :: '/' :: u.authorityText) =
      fileHost? u.host.text >>= u.withFileHost := by
  have htext : '/' :: '/' :: u.authorityText = '/' :: '/' :: (u.host.text ++ u.pathAndQuery) := by
    simp [authorityText, userInfoText, portText, hfile.username, hfile.password, hfile.port]
  -- Nothing in the canonical text is ignored, so the parts are found where they were written.
  have hvisible : ∀ c ∈ '/' :: '/' :: u.authorityText, isIgnored c = false := by
    intro c hc
    rcases (by simpa using hc : c = '/' ∨ c ∈ u.authorityText) with rfl | hmem
    · rfl
    · exact isIgnored_of_isTextChar (h.authority_chars c hmem)
  have hkept := kept_of_visible hvisible
  have hhost : (u.host.text ++ u.pathAndQuery).takeWhile (!endsAuthority true ·) = u.host.text :=
    takeWhile_authority (fun c hc => not_endsAuthority (h.host.text_chars c hc) true)
      (endsAuthority_pathAndQuery u true)
  have hbehind : dropKept (2 + u.host.text.length) ('/' :: '/' :: u.authorityText) =
      u.pathAndQuery := by
    rw [dropKept_of_visible hvisible, htext, Nat.add_comm]
    simp
  have hsplit : splitPath u.pathAndQuery = (pathText u.segments, u.queryText) :=
    splitPath_text fun s hs => (h.segments s hs).clean
  have hpath : (pathText u.segments).dropWhile isIgnored = pathText u.segments := by
    rw [pathText_eq hfile.nonempty]
    rfl
  have hquery : kept u.queryText = u.queryText :=
    kept_of_visible fun c hc => isIgnored_of_isTextChar (h.query_chars c hc)
  have hsegments : segmentsOf true (pathText u.segments) = u.segments :=
    segmentsOf_pathText hfile.nonempty h.segments
  have hqueryOf : queryOf true u.queryText = u.query := queryOf_text h.query
  unfold parseFile
  dsimp only
  rw [hkept, htext, List.drop_succ_cons, List.drop_succ_cons, List.drop_zero, hhost, ← htext,
    hbehind, hsplit]
  dsimp only
  rw [hpath, hsegments, hquery, hqueryOf]
  refine (if_neg (by simp [isSlash])).trans (congrArg (Except.bind _) (funext fun found => ?_))
  cases found <;> rfl

/-- What is written behind a `file` scheme is read as the same URL if the host is read as itself
and no drive letter is in front. -/
theorem IsRead.parseFile_text (h : u.IsRead .file) (hfile : u.IsFile) :
    parseFile u.scheme ('/' :: '/' :: u.authorityText) = .ok u ↔
      domainHost u.host.text = .ok u.host ∧ ∀ s ∈ u.segments.head?, isDriveLetter s = false := by
  rw [h.parseFile_eq hfile, ← fileHost?_text h.host hfile.notLocal]
  -- The host is read as itself, and a drive letter in front would have taken its place.
  constructor
  · intro hparse
    obtain ⟨found, hhost, hparse⟩ := ok_of_bind hparse
    cases found with
    | none => contradiction
    | some host =>
      dsimp only [withFileHost] at hparse
      split at hparse
      · contradiction
      · next segments hsegments =>
        refine ⟨?_, fun s hs => Bool.eq_false_iff.mpr fun hdrive => ?_⟩
        · rw [hhost, ← Except.ok.inj hparse]
        · have hnone := resolveFileSegments?_of_drive h.segments hfile.nonempty fun s' hs' => by
            obtain rfl : s = s' := Option.some.inj (hs.symm.trans hs')
            exact hdrive
          rw [hnone] at hsegments
          contradiction
  · rintro ⟨hhost, hdrive⟩
    have hresolved : ∀ s ∈ u.segments, IsSegment true s := by
      rcases hfile.segments.resolved with hall | ⟨d, hhead, hletter⟩
      · exact hall
      · rw [hdrive d hhead] at hletter
        contradiction
    have hsegments : resolveFileSegments? [] u.segments = some u.segments :=
      resolveFileSegments?_of_isSegment hresolved fun _ => hdrive
    rw [hhost, ok_bind, withFileHost, hsegments]
    dsimp only
    rw [hfile.trimmed, hfile.eq]

/-! ## All schemes -/

/-- What is known of a URL that was read, whatever its scheme. -/
structure IsWhole (u : Url) : Prop where
  scheme : IsScheme u.scheme
  read : u.IsRead u.kind
  resolved : u.kind ≠ .file → u.IsResolved u.kind
  file : u.kind = .file → u.IsFile

theorem isWhole_of_parse (h : parse s = .ok u) : u.IsWhole := by
  unfold parse at h
  dsimp only at h
  split at h
  · contradiction
  next scheme rest hscheme =>
    have hwritten := isScheme_of_splitScheme? hscheme
    have hauthority : ∀ {kind t}, SchemeKind.ofScheme scheme = kind → kind ≠ .file →
        parseAuthority scheme kind t = .ok u → u.IsWhole := by
      intro kind t hkind hfile hparse
      obtain ⟨rfl, behindUser, behindPort, hreads⟩ := readsAuthority_of_parse hparse
      obtain ⟨hread, hresolved⟩ := hreads.isRead
      subst hkind
      exact ⟨hwritten, hread, fun _ => hresolved, fun hkind => absurd hkind hfile⟩
    split at h
    · next hkind =>
      obtain ⟨rfl, hread, hfile⟩ := isRead_of_parseFile h
      have hkind : u.kind = .file := hkind
      exact ⟨hwritten, hkind ▸ hread, fun hne => absurd hkind hne, fun _ => hfile⟩
    · next port hkind => exact hauthority hkind (by simp) h
    · next hkind =>
      split at h
      · exact hauthority hkind (by simp) h
      · contradiction

theorem IsWhole.text_chars (h : u.IsWhole) : ∀ c ∈ u.text, IsTextChar c := by
  intro c hc
  rw [text_eq] at hc
  rcases (by simpa using hc : c ∈ u.scheme ∨ c = ':' ∨ c = '/' ∨ c ∈ u.authorityText) with
    hscheme | rfl | rfl | hauthority
  · exact h.scheme.text_chars c hscheme
  · decide
  · decide
  · exact h.read.authority_chars c hauthority

/-- Is the URL read as itself? Its domain name is to be its own ASCII form, and no drive letter
to take the place of the host. -/
structure IsSteady (u : Url) : Prop where
  host : u.kind.isSpecial = true → u.host.IsSteady
  drive : u.kind = .file → ∀ s ∈ u.segments.head?, isDriveLetter s = false

theorem trimmed_of_visible (h : ∀ c ∈ s, IsTextChar c) : trimmed s = s := by
  have hkeep : ∀ c ∈ s, decide (c.val ≤ 0x20) = false := by
    intro c hc
    have hc := (h c hc).1
    simpa [UInt32.lt_iff_toNat_lt] using hc
  exact trimEnds_of_ends (fun c hc => hkeep c (List.mem_of_mem_head? hc))
    fun c hc => hkeep c (List.mem_of_mem_getLast? hc)

/-- The canonical text is taken apart behind its scheme. -/
theorem IsWhole.parse_text_eq (h : u.IsWhole) :
    parse u.text =
      match u.kind with
      | .file => parseFile u.scheme ('/' :: '/' :: u.authorityText)
      | .special port => parseAuthority u.scheme (.special port) u.authorityText
      | .other => parseAuthority u.scheme .other u.authorityText := by
  have hvisible : ∀ c ∈ u.text, isIgnored c = false :=
    fun c hc => isIgnored_of_isTextChar (h.text_chars c hc)
  have hscheme : splitScheme? u.text = some (u.scheme, '/' :: '/' :: u.authorityText) := by
    rw [text_eq]
    exact h.scheme.splitScheme?_text _
  have hbehind : u.text.drop (u.scheme.length + 1) = '/' :: '/' :: u.authorityText := by
    rw [text_eq]
    simp [List.drop_append]
  have hslashes : ('/' :: '/' :: u.authorityText).dropWhile (isSlash true) = u.authorityText :=
    h.read.dropWhile_authorityText
  unfold parse
  dsimp only
  rw [trimmed_of_visible h.text_chars, kept_of_visible hvisible, hscheme]
  dsimp only
  rw [dropKept_of_visible hvisible, hbehind, hslashes]
  rfl

theorem readHost_text_iff {special : Bool} {host : Host} (h : host.IsRead special) :
    readHost special host.text = .ok host ↔ (special = true → host.IsSteady) := by
  unfold readHost
  cases special with
  | false => exact ⟨fun _ => by simp, fun _ => h.opaqueHost_text⟩
  | true =>
    exact ⟨fun hread _ => Host.isSteady_of_domainHost_text hread,
      fun hsteady => h.domainHost_text (hsteady rfl)⟩

/-- The canonical text of a whole URL is read as the URL exactly if the URL is steady. -/
theorem IsWhole.parse_text_iff (hwhole : u.IsWhole) : parse u.text = .ok u ↔ u.IsSteady := by
  have hhost := readHost_text_iff hwhole.read.host
  have hauthority : u.kind ≠ .file →
      (parseAuthority u.scheme u.kind u.authorityText = .ok u ↔ u.IsSteady) := by
    intro hfile
    rw [hwhole.read.parseAuthority_text (hwhole.resolved hfile), hhost]
    exact ⟨fun hsteady => ⟨hsteady, fun hkind => absurd hkind hfile⟩, fun hsteady => hsteady.host⟩
  rw [hwhole.parse_text_eq]
  cases hkind : u.kind with
  | file =>
    have hread := hwhole.read
    rw [hkind] at hread hhost
    have hdomain : domainHost u.host.text = .ok u.host ↔ _ := hhost
    rw [hread.parseFile_text (hwhole.file hkind), hdomain]
    refine ⟨fun hsteady => ⟨fun _ => hsteady.1 rfl, fun _ => hsteady.2⟩, fun hsteady => ?_⟩
    exact ⟨fun _ => hsteady.host (by rw [hkind]; rfl), hsteady.drive hkind⟩
  | special port =>
    rw [hkind] at hauthority
    exact hauthority (by simp)
  | other =>
    rw [hkind] at hauthority
    exact hauthority (by simp)

/-- So is that of a URL that was read. -/
theorem parse_text_iff (h : parse s = .ok u) : parse u.text = .ok u ↔ u.IsSteady :=
  (isWhole_of_parse h).parse_text_iff

end EdgeRender.Url
