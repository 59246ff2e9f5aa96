import EdgeRender.Url.Parser
import EdgeRender.Proofs.Url.Host
import EdgeRender.Proofs.Url.Path
import Mathlib.Data.List.TakeDrop
import Mathlib.Data.List.TakeWhile

/-! # What stands behind the slashes

How the parser takes user name, password, host, port, path and query apart, what they are when
they were read, and that each is found again in the text that they are written in.
-/
namespace EdgeRender.Url

open EdgeRender.Text EdgeRender.Text.Utf8

theorem ok_of_bind {x : Except ε α} {f : α → Except ε β} {b : β} (h : (x >>= f) = .ok b) :
    ∃ a, x = .ok a ∧ f a = .ok b := by
  cases x with
  | error e => contradiction
  | ok a => exact ⟨a, rfl, h⟩

theorem ok_bind (a : α) (f : α → Except ε β) : (Except.ok a >>= f) = f a := rfl

def readHost (special : Bool) (hostText : List Char) : Except Fault Host :=
  if special then domainHost hostText else opaqueHost hostText

theorem readHost_bind (special : Bool) (hostText : List Char) (f : Host → Except Fault Url) :
    (if special = true then domainHost hostText >>= f else opaqueHost hostText >>= f) =
      readHost special hostText >>= f := by
  unfold readHost
  split <;> rfl

def readSegments (special : Bool) (path : List Char) : List (List Char) :=
  if !special && path.isEmpty then []
  else resolveSegments [] ((segmentsOf special path).map (percentEncode escapedInPath))

/-- The parts of a URL as they are read behind its slashes; `behindUser` and `behindPort` are what
is left of the text behind the user and behind the port. -/
structure ReadsAuthority (kind : SchemeKind) (s : List Char) (u : Url)
    (behindUser behindPort : List Char) : Prop where
  user : splitUserInfo kind.isSpecial s = .ok (u.username, u.password, behindUser)
  hostText : hostPrefix kind.isSpecial false behindUser ≠ []
  host : readHost kind.isSpecial (hostPrefix kind.isSpecial false behindUser) = .ok u.host
  port : splitPort kind (behindUser.drop (hostPrefix kind.isSpecial false behindUser).length) =
    .ok (u.port, behindPort)
  segments : u.segments = readSegments kind.isSpecial (splitPath behindPort).1
  query : u.query = queryOf kind.isSpecial (splitPath behindPort).2

variable {scheme s : List Char} {kind : SchemeKind} {special : Bool} {u : Url}

theorem readsAuthority_of_parse (h : parseAuthority scheme kind s = .ok u) :
    u.scheme = scheme ∧ ∃ behindUser behindPort, ReadsAuthority kind s u behindUser behindPort := by
  unfold parseAuthority at h
  obtain ⟨⟨username, password, behindUser⟩, huser, h⟩ := ok_of_bind h
  dsimp only at h
  rw [readHost_bind] at h
  split at h
  · contradiction
  obtain ⟨host, hhost, h⟩ := ok_of_bind h
  obtain ⟨⟨port, behindPort⟩, hport, h⟩ := ok_of_bind h
  split at h
  · contradiction
  next hempty =>
    obtain rfl := Except.ok.inj h
    exact ⟨rfl, behindUser, behindPort, huser, by simpa using hempty, hhost, hport, rfl, rfl⟩

theorem parse_of_readsAuthority {behindUser behindPort : List Char}
    (h : ReadsAuthority kind s u behindUser behindPort) :
    parseAuthority u.scheme kind s = .ok u := by
  have hempty : (hostPrefix kind.isSpecial false behindUser).isEmpty = false := by
    simpa using h.hostText
  unfold parseAuthority
  dsimp only
  rw [h.user, ok_bind]
  dsimp only
  rw [hempty, Bool.false_and, if_neg (by decide), readHost_bind, h.host, ok_bind, h.port, ok_bind]
  dsimp only
  rw [if_neg (by decide)]
  have hsegments := h.segments
  unfold readSegments at hsegments
  rw [← hsegments, ← h.query]
  rfl

/-! ## User names and passwords -/

theorem clean_of_splitUserInfo {username password rest : List Char}
    (h : splitUserInfo special s = .ok (username, password, rest)) :
    Clean escapedInUserInfo username ∧ Clean escapedInUserInfo password := by
  have hclean : ∀ t, Clean escapedInUserInfo (percentEncode escapedInUserInfo t) :=
    clean_percentEncode (forall_mem_of_all (by decide))
  unfold splitUserInfo at h
  dsimp only at h
  split_ifs at h
  all_goals
    have hparts := Except.ok.inj h
    simp only [Prod.mk.injEq] at hparts
    obtain ⟨rfl, rfl, -⟩ := hparts
  · exact ⟨hclean _, hclean _⟩
  · exact ⟨by simp [Clean], by simp [Clean]⟩

/-- What comes behind an authority: the end, or a character that ends it. -/
def EndsAuthority (special : Bool) (rest : List Char) : Prop :=
  ∀ c ∈ rest.head?, endsAuthority special c = true

theorem takeWhile_authority {t rest : List Char} (ht : ∀ c ∈ t, endsAuthority special c = false)
    (hrest : EndsAuthority special rest) :
    (t ++ rest).takeWhile (!endsAuthority special ·) = t :=
  takeWhile_append_of_head (fun c hc => by simp [ht c hc]) fun c hc => by simp [hrest c hc]

/-- A character that stands for itself in a user name. -/
theorem userInfo_char {t : List Char} (h : Clean escapedInUserInfo t) (special : Bool) {c : Char}
    (hc : c ∈ t) : endsAuthority special c = false ∧ c ≠ ':' := by
  obtain ⟨hascii, hfree⟩ := h c hc
  exact forall_ascii
    (P := fun c => escapedInUserInfo c = false →
      ∀ special, endsAuthority special c = false ∧ c ≠ ':')
    (by decide) hascii hfree special

/-- User name and password as they are written in front of the `@`. -/
def credentials (u : Url) : List Char :=
  u.username ++ if u.password.isEmpty then [] else ':' :: u.password

theorem userInfoText_eq (h : (u.username.isEmpty && u.password.isEmpty) = false) :
    u.userInfoText = u.credentials ++ ['@'] := by
  unfold userInfoText
  dsimp only
  rw [h]
  rfl

theorem credentials_char (husername : Clean escapedInUserInfo u.username)
    (hpassword : Clean escapedInUserInfo u.password) (special : Bool) {c : Char}
    (hc : c ∈ u.credentials) : endsAuthority special c = false := by
  have hsplit : c ∈ u.username ∨ c = ':' ∨ c ∈ u.password := by
    rcases List.mem_append.mp hc with hname | hword
    · exact .inl hname
    · split at hword
      · contradiction
      · exact .inr (List.mem_cons.mp hword)
  rcases hsplit with hname | rfl | hword
  · exact (userInfo_char husername special hname).1
  · cases special <;> decide
  · exact (userInfo_char hpassword special hword).1

theorem takeWhile_credentials (husername : Clean escapedInUserInfo u.username) :
    u.credentials.takeWhile (· != ':') = u.username := by
  have hname : ∀ c ∈ u.username, (c != ':') = true := fun c hc => by
    simpa using (userInfo_char husername true hc).2
  refine takeWhile_append_of_head hname ?_
  split <;> simp

theorem drop_credentials (u : Url) : u.credentials.drop (u.username.length + 1) = u.password := by
  unfold credentials
  split
  · next hempty => simp [List.isEmpty_iff.mp hempty]
  · simp [List.drop_append]

theorem credentials_ne_nil (h : (u.username.isEmpty && u.password.isEmpty) = false) :
    u.credentials ≠ [] := by
  unfold credentials
  cases hname : u.username.isEmpty with
  | false => simp [List.isEmpty_eq_false_iff.mp hname]
  | true =>
    rw [hname, Bool.true_and] at h
    simp [h]

/-- What stands in front of the last `@` of an authority is taken for a user name, and behind a
colon for a password. -/
theorem splitUserInfo_front {front host rest : List Char} (hne : front ≠ [])
    (hfront : ∀ c ∈ front, endsAuthority special c = false)
    (hhost : ∀ c ∈ host, endsAuthority special c = false) (hat : '@' ∉ host)
    (hrest : EndsAuthority special rest) :
    splitUserInfo special (front ++ '@' :: host ++ rest) =
      .ok (percentEncode escapedInUserInfo (front.takeWhile (· != ':')),
        percentEncode escapedInUserInfo
          (front.drop ((front.takeWhile (· != ':')).length + 1)), host ++ rest) := by
  have hauthority : ∀ c ∈ front ++ '@' :: host, endsAuthority special c = false := by
    intro c hc
    rcases (by simpa using hc : _ ∨ _ ∨ _) with hmem | rfl | hmem
    · exact hfront c hmem
    · cases special <;> decide
    · exact hhost c hmem
  have hback : ((front ++ '@' :: host).reverse.takeWhile (· != '@')).reverse = host := by
    have hreverse : (front ++ '@' :: host).reverse = host.reverse ++ '@' :: front.reverse := by simp
    have hnot : ∀ c ∈ host.reverse, (c != '@') = true := by
      intro c hc
      have hmem := List.mem_reverse.mp hc
      simpa using fun heq : c = '@' => hat (heq ▸ hmem)
    rw [hreverse, takeWhile_append_of_head hnot (by simp), List.reverse_reverse]
  have htake : (front ++ '@' :: host).take ((front ++ '@' :: host).length - host.length - 1) =
      front := by
    have hlength : (front ++ '@' :: host).length - host.length - 1 = front.length := by
      rw [List.length_append, List.length_cons]
      omega
    rw [hlength, List.take_left]
  have hbehind : (front ++ '@' :: host ++ rest).drop (front.length + 1) = host ++ rest := by
    simp [List.drop_append]
  have hmem : ¬ '@' ∉ front ++ '@' :: host := by simp
  rw [splitUserInfo, takeWhile_authority hauthority hrest]
  dsimp only
  rw [if_neg hmem, hback, htake, List.isEmpty_eq_false_iff.mpr hne, Bool.false_and,
    if_neg (by decide), hbehind]

/-- User name and password are found again in front of a host. -/
theorem splitUserInfo_text (husername : Clean escapedInUserInfo u.username)
    (hpassword : Clean escapedInUserInfo u.password) {host rest : List Char}
    (hhost : ∀ c ∈ host, IsHostTextChar c) (hrest : EndsAuthority special rest) :
    splitUserInfo special (u.userInfoText ++ host ++ rest) =
      .ok (u.username, u.password, host ++ rest) := by
  have hat : '@' ∉ host := fun hmem => absurd (hhost '@' hmem) (by decide)
  have hends : ∀ c ∈ host, endsAuthority special c = false :=
    fun c hc => not_endsAuthority (hhost c hc) special
  cases hempty : u.username.isEmpty && u.password.isEmpty with
  | true =>
    have htext : u.userInfoText = [] := if_pos hempty
    obtain ⟨husername, hpassword⟩ := Bool.and_eq_true_iff.mp hempty
    rw [htext, List.nil_append, splitUserInfo, takeWhile_authority hends hrest]
    dsimp only
    rw [if_pos hat, List.isEmpty_iff.mp husername, List.isEmpty_iff.mp hpassword]
  | false =>
    have htext : u.userInfoText ++ host ++ rest = u.credentials ++ '@' :: host ++ rest := by
      rw [userInfoText_eq hempty]
      simp
    have hcredentials : ∀ c ∈ u.credentials, endsAuthority special c = false :=
      fun _ => credentials_char husername hpassword special
    rw [htext, splitUserInfo_front (credentials_ne_nil hempty) hcredentials hends hat hrest,
      takeWhile_credentials husername, drop_credentials u, percentEncode_of_clean husername,
      percentEncode_of_clean hpassword]

/-! ## Ports -/

theorem portDigits_le {count port : Nat} {t : List Char} {read : Nat × Nat × List Char}
    (hport : port ≤ 65535) (h : portDigits count port t = .ok read) : read.2.1 ≤ 65535 := by
  fun_induction portDigits count port t with
  | case1 => exact Except.ok.inj h ▸ hport
  | case2 => contradiction
  | case3 count port c rest hdigit port' hle ih => exact ih (by omega) h
  | case4 => exact Except.ok.inj h ▸ hport
  | case5 => contradiction

/-- A port that was read has 16 bits, and is not the one that goes without saying. -/
theorem port_of_splitPort {port : Nat} {rest : List Char}
    (h : splitPort kind s = .ok (some port, rest)) : port ≤ 65535 ∧ kind ≠ .special port := by
  unfold splitPort at h
  split at h
  · obtain ⟨⟨count, read, rest'⟩, hread, h⟩ := ok_of_bind h
    dsimp only at h
    split at h
    · cases h
    · next hwritten =>
      obtain ⟨rfl, -⟩ : read = port ∧ rest' = rest := by simpa using Except.ok.inj h
      rw [Bool.or_eq_true, not_or] at hwritten
      refine ⟨portDigits_le (by omega) hread, ?_⟩
      rintro rfl
      simp at hwritten
  · cases h

theorem portDigits_digits {digits rest : List Char} (hdigits : ∀ c ∈ digits, c.isDigit = true)
    (hrest : EndsAuthority true rest) (count port : Nat)
    (hle : valueFrom port (digits.map fun c => c.toNat - 48) ≤ 65535) :
    portDigits count port (digits ++ rest) =
      .ok (count + digits.length, valueFrom port (digits.map fun c => c.toNat - 48), rest) := by
  induction digits generalizing count port with
  | nil =>
    cases rest with
    | nil => rfl
    | cons c rest =>
      have hends : endsAuthority true c = true := hrest c rfl
      have hdigit : c.isDigit = false := by
        rcases (by simpa [endsAuthority, isSlash] using hends : ((_ ∨ _) ∨ _) ∨ _) with
          ((rfl | rfl) | rfl) | rfl <;> rfl
      rw [List.nil_append, portDigits, hdigit, if_neg (by decide), if_pos hends]
      rfl
  | cons c digits ih =>
    rw [List.map_cons, valueFrom_cons] at hle ⊢
    have hfits := le_valueFrom (port * 10 + (c.toNat - 48)) (digits.map fun c => c.toNat - 48)
    rw [List.cons_append, portDigits, hdigits c (by simp), if_pos rfl]
    dsimp only
    rw [if_neg (by omega), ih (fun c' hc' => hdigits c' (by simp [hc'])) _ _ hle, List.length_cons,
      Nat.add_assoc, Nat.add_comm 1]

/-- The port is found again in front of a path. -/
theorem splitPort_text {rest : List Char} (hport : ∀ port, u.port = some port →
    port ≤ 65535 ∧ kind ≠ .special port) (hrest : EndsAuthority true rest) :
    splitPort kind (u.portText ++ rest) = .ok (u.port, rest) := by
  cases hread : u.port with
  | none =>
    have hcolon : rest.head? ≠ some ':' := fun hhead => absurd (hrest ':' hhead) (by decide)
    rw [portText, hread]
    dsimp only
    rw [List.nil_append, splitPort, if_neg hcolon]
    rfl
  | some port =>
    obtain ⟨hle, hkind⟩ := hport port hread
    have hvalue := valueFrom_toDigits port
    have hdigit : ∀ c ∈ Nat.toDigits 10 port, c.isDigit = true := fun _ => isDigit_of_mem_toDigits
    have hdigits := portDigits_digits hdigit hrest 0 0 (by rw [hvalue]; exact hle)
    rw [hvalue] at hdigits
    rw [portText, hread]
    dsimp only
    rw [List.cons_append, splitPort, List.head?_cons, if_pos rfl, List.drop_one, List.tail_cons,
      hdigits, ok_bind]
    dsimp only
    rw [if_neg (by simp [hkind])]
    rfl

/-! ## Paths and queries -/

theorem splitPath_append {path rest : List Char} (hpath : ∀ c ∈ path, c ≠ '?' ∧ c ≠ '#')
    (hrest : ∀ c ∈ rest.head?, c = '?') : splitPath (path ++ rest) = (path, rest) := by
  have hkeep : ∀ c ∈ path, (c != '?' && c != '#') = true := fun c hc => by simp [hpath c hc]
  have hstop : ∀ c ∈ rest.head?, (c != '?' && c != '#') = false := fun c hc => by simp [hrest c hc]
  rw [splitPath, List.span_eq_takeWhile_dropWhile, takeWhile_append_of_head hkeep hstop,
    dropWhile_append_of_head hkeep hstop]

theorem pathText_char {segments : List (List Char)} (h : ∀ s ∈ segments, Clean escapedInPath s) :
    ∀ c ∈ pathText segments, c = '/' ∨ (c.toNat < 0x80 ∧ escapedInPath c = false) := by
  intro c hc
  obtain ⟨segment, hsegment, hmem⟩ := List.mem_flatMap.mp hc
  rcases List.mem_cons.mp hmem with rfl | hmem
  · exact .inl rfl
  · exact .inr (h segment hsegment c hmem)

theorem head?_queryText (u : Url) : ∀ c ∈ u.queryText.head?, c = '?' := by
  intro c hc
  unfold queryText at hc
  split at hc
  · exact (Option.some.inj hc).symm
  · contradiction

theorem head?_pathText (segments : List (List Char)) (rest : List Char)
    (hrest : ∀ c ∈ rest.head?, c = '?') :
    ∀ c ∈ (pathText segments ++ rest).head?, c = '/' ∨ c = '?' := by
  intro c hc
  cases segments with
  | nil => exact .inr (hrest c hc)
  | cons segment segments => exact .inl (Option.some.inj hc).symm

/-- The path is found again in front of the query. -/
theorem splitPath_text (h : ∀ s ∈ u.segments, Clean escapedInPath s) :
    splitPath (pathText u.segments ++ u.queryText) = (pathText u.segments, u.queryText) := by
  refine splitPath_append (fun c hc => ?_) (head?_queryText u)
  rcases pathText_char h c hc with rfl | ⟨hascii, hfree⟩
  · decide
  · exact forall_ascii (P := fun c => escapedInPath c = false → c ≠ '?' ∧ c ≠ '#') (by decide)
      hascii hfree

/-- The segments are found again in the text of their path. -/
theorem readSegments_pathText {segments : List (List Char)}
    (h : ∀ s ∈ segments, IsSegment special s) (hne : special = true → segments ≠ []) :
    readSegments special (pathText segments) = segments := by
  unfold readSegments
  cases segments with
  | nil =>
    have hother : special = false := Bool.eq_false_iff.mpr fun hspecial => hne hspecial rfl
    subst hother
    rfl
  | cons segment segments =>
    have hclean :
        (segment :: segments).map (percentEncode escapedInPath) = segment :: segments := by
      refine (List.map_congr_left fun s hs => ?_).trans (List.map_id _)
      exact percentEncode_of_clean (h s hs).clean
    have hempty : (pathText (segment :: segments)).isEmpty = false := rfl
    rw [hempty, Bool.and_false, if_neg (by decide),
      segmentsOf_pathText (by simp) (fun s hs => (h s hs).toIsCut), hclean,
      resolveSegments_of_isSegment h, List.nil_append]

theorem isSegment_of_mem_readSegments {path segment : List Char}
    (h : segment ∈ readSegments special path) : IsSegment special segment := by
  unfold readSegments at h
  split at h
  · contradiction
  · refine isSegment_of_mem_resolveSegments (by simp) (fun s hs => ?_) segment h
    obtain ⟨s', hs', rfl⟩ := List.mem_map.mp hs
    exact isCut_percentEncode (noSlash_of_mem_segmentsOf hs')

theorem readSegments_ne_nil (path : List Char) : readSegments true path ≠ [] := by
  unfold readSegments
  refine resolveSegments_ne_nil fun hnil => ?_
  exact segmentsOf_ne_nil true path (List.map_eq_nil_iff.mp hnil)

/-- The characters that are escaped in a query. -/
def queryEscapes (special : Bool) : Char → Bool :=
  if special then escapedInSpecialQuery else escapedInQuery

theorem clean_of_queryOf {t query : List Char} (h : queryOf special t = some query) :
    Clean (queryEscapes special) query := by
  unfold queryOf at h
  split at h
  · obtain rfl := Option.some.inj h
    exact clean_percentEncode (forall_mem_of_all (by cases special <;> decide)) _
  · contradiction

/-- The query is found again at the end. -/
theorem queryOf_text (h : ∀ query, u.query = some query → Clean (queryEscapes special) query) :
    queryOf special u.queryText = u.query := by
  cases hquery : u.query with
  | none =>
    rw [queryText, hquery]
    rfl
  | some query =>
    have hclean := h query hquery
    have hmark : ∀ c ∈ query, (c != '#') = true := by
      intro c hc
      obtain ⟨hascii, hfree⟩ := hclean c hc
      exact forall_ascii
        (P := fun c => ∀ special, queryEscapes special c = false → (c != '#') = true)
        (by decide) hascii special hfree
    have hwhole : query.takeWhile (· != '#') = query := List.takeWhile_eq_self_iff.mpr hmark
    rw [queryText, hquery]
    show some (percentEncode (queryEscapes special) (query.takeWhile (· != '#'))) = some query
    rw [hwhole, percentEncode_of_clean hclean]

end EdgeRender.Url
