import EdgeRender.Fetch.Input
import EdgeRender.Proofs.Text.Trim
import EdgeRender.Proofs.Url.Steady

/-! # Keys are canonical

Blanks around a URL make no difference to its key, nor to why it has none. The record of a fetch
holds a URL and a key that lead to the record again: the URL always, and the key if the URL that
it is the text of is read as itself.
-/
namespace EdgeRender.Fetch

open EdgeRender.Text EdgeRender.Url

/-! ## Blanks around a URL -/

def InputFault.requoted (url : String) : InputFault → InputFault
  | .missingUrl => .missingUrl
  | .invalidUrl _ cause => .invalidUrl url cause

def IsBlankText (s : String) : Prop := ∀ c ∈ s.toList, isBlank c = true

namespace Key

variable {s url : String} {key : Key} {fault : InputFault} {u : Url}

/-- A URL has the key of its trimmed text, and is quoted as it is if it has none. -/
theorem parse_eq_trim (url : String) :
    Key.parse url = (Key.parse (trim url)).mapError (.requoted url) := by
  unfold Key.parse
  dsimp only
  rw [trim_idem]
  split
  · rfl
  · split <;> rfl

/-- Blanks around a URL make no difference, except that they are quoted with it. -/
theorem parse_append {a b : String} (ha : IsBlankText a) (hb : IsBlankText b) (s : String) :
    Key.parse (a ++ s ++ b) = (Key.parse s).mapError (.requoted (a ++ s ++ b)) := by
  rw [parse_eq_trim, trim_append ha hb, parse_eq_trim s]
  cases Key.parse (trim s) with
  | ok key => rfl
  | error fault => cases fault <;> rfl

/-! ## The text of a key -/

/-- A key is the text of the URL that was read. -/
theorem exists_of_parse (h : Key.parse url = .ok key) :
    ∃ u, Url.parse (trim url).toList = .ok u ∧ key.text = String.ofList u.text := by
  unfold Key.parse at h
  dsimp only at h
  split at h
  · cases h
  · split at h
    · next u hu =>
      obtain rfl := Except.ok.inj h
      exact ⟨u, hu, rfl⟩
    · cases h

theorem isBlank_of_isTextChar {c : Char} (h : IsTextChar c) : isBlank c = false := by
  have hascii : c.toNat < 0x80 := Nat.lt_trans h.2.1 (by decide)
  exact Utf8.forall_ascii (P := fun c => IsTextChar c → isBlank c = false) (by decide) hascii h

theorem trim_of_visible (h : ∀ c ∈ s.toList, IsTextChar c) : trim s = s := by
  have hkeep : ∀ c ∈ s.toList, isBlank c = false := fun c hc => isBlank_of_isTextChar (h c hc)
  rw [trim, trimEnds_of_ends (fun c hc => hkeep c (List.mem_of_mem_head? hc))
    (fun c hc => hkeep c (List.mem_of_mem_getLast? hc)), String.ofList_toList]

/-- The key of a URL is its own key, if its text is read as the URL. -/
theorem parse_text (h : Url.parse u.text = .ok u) (hchars : ∀ c ∈ u.text, IsTextChar c) :
    Key.parse (.ofList u.text) = .ok ⟨.ofList u.text⟩ := by
  have htrim : trim (.ofList u.text) = .ofList u.text :=
    trim_of_visible (by rwa [String.toList_ofList])
  have hempty : (String.ofList u.text).isEmpty = false := by
    simp [Url.text]
  unfold Key.parse
  dsimp only
  rw [htrim, hempty, if_neg (by decide), String.toList_ofList, h]

end Key

/-! ## Records of fetches -/

def Input.withUrl (url : String) : Input → Input
  | .plain _ options => .plain url options
  | .request r options => .request { r with url } options

theorem normalize_of_parse {input : Input} {key : Key} (h : Key.parse input.url = .ok key) :
    normalize input = .ok
      { url := trim input.url, key, method := input.method, cache := input.cache,
        revalidate := input.options.revalidate, kind := input.kind,
        tags := input.options.tags } := by
  rw [normalize, h]
  rfl

/-- The record of a fetch has the key of its URL, without blanks. -/
theorem parse_of_normalize {input : Input} {spec : Spec} (h : normalize input = .ok spec) :
    Key.parse input.url = .ok spec.key ∧ spec.url = trim input.url := by
  obtain ⟨key, hkey, h⟩ := ok_of_bind h
  obtain rfl := Except.ok.inj h
  exact ⟨hkey, rfl⟩

/-- An input with another URL of the same key has the same record, but for the URL. -/
theorem normalize_withUrl {input : Input} {spec : Spec} {url : String}
    (h : normalize input = .ok spec) (hurl : Key.parse url = .ok spec.key) :
    normalize (input.withUrl url) = .ok { spec with url := trim url } := by
  obtain ⟨hkey, -⟩ := parse_of_normalize h
  have hspec := (normalize_of_parse hkey).symm.trans h
  obtain hspec := Except.ok.inj hspec
  cases input with
  | plain _ options =>
    rw [← hspec]
    exact normalize_of_parse (hspec ▸ hurl)
  | request r options =>
    rw [← hspec]
    exact normalize_of_parse (hspec ▸ hurl)

/-- The URL and the key of a record lead to the record again. -/
structure Spec.IsCanonical (input : Input) (spec : Spec) : Prop where
  url : Key.parse spec.url = .ok spec.key
  /-- The input whose URL is that of the record has the same record. -/
  again : normalize (input.withUrl spec.url) = .ok spec
  noFragment : '#' ∉ spec.key.text.toList
  noBlanks : trim spec.key.text = spec.key.text
  /-- The key is the text of a URL. If that text is read as the URL again, the key has itself as
  its key, and the record is the same but for the URL, which is the key. -/
  key : ∃ u, Url.parse spec.url.toList = .ok u ∧ spec.key.text = .ofList u.text ∧
    (Url.parse u.text = .ok u →
      Key.parse spec.key.text = .ok spec.key ∧
      normalize (input.withUrl spec.key.text) = .ok { spec with url := spec.key.text }) ∧
    (Url.parse u.text = .ok u ↔ u.IsSteady)

/-- Keys do not depend on the blanks around a URL, and records do not depend on how their URL was
spelled. -/
structure KeysAreCanonical : Prop where
  blanks : ∀ a s b, IsBlankText a → IsBlankText b →
    Key.parse (a ++ s ++ b) = (Key.parse s).mapError (.requoted (a ++ s ++ b))
  records : ∀ input spec, normalize input = .ok spec → spec.IsCanonical input

theorem isCanonical_of_normalize {input : Input} {spec : Spec} (h : normalize input = .ok spec) :
    spec.IsCanonical input := by
  obtain ⟨hkey, hurl⟩ := parse_of_normalize h
  have hagain : Key.parse spec.url = .ok spec.key := by
    have hquoted := (Key.parse_eq_trim input.url).symm.trans hkey
    rw [hurl]
    cases hparse : Key.parse (trim input.url) with
    | ok key =>
      rw [hparse] at hquoted
      exact hquoted
    | error fault =>
      rw [hparse] at hquoted
      cases hquoted
  have htrimmed : trim spec.url = spec.url := by rw [hurl, trim_idem]
  obtain ⟨u, hu, htext⟩ := Key.exists_of_parse hagain
  have hchars := (isWhole_of_parse hu).text_chars
  have hkeyChars : ∀ c ∈ spec.key.text.toList, IsTextChar c := by
    rwa [htext, String.toList_ofList]
  have hself : trim spec.key.text = spec.key.text := Key.trim_of_visible hkeyChars
  refine ⟨hagain, ?_, fun hmem => (hkeyChars '#' hmem).2.2 rfl, hself, u, ?_, htext,
    fun hread => ?_, parse_text_iff hu⟩
  · have hnormal := normalize_withUrl h hagain
    rwa [htrimmed] at hnormal
  · rwa [htrimmed] at hu
  · have hparse : Key.parse spec.key.text = .ok spec.key := by
      have hself := Key.parse_text hread hchars
      rw [← htext] at hself
      exact hself
    have hnormal := normalize_withUrl h hparse
    rw [hself] at hnormal
    exact ⟨hparse, hnormal⟩

/-- Keys are canonical. -/
theorem keysAreCanonical : KeysAreCanonical where
  blanks _ s _ ha hb := Key.parse_append ha hb s
  records _ _ h := isCanonical_of_normalize h

theorem keysAreCanonical_exampleCom :
    ∃ spec, normalize (.plain "  HTTPS://Example.com:443/a b?q=1#top " {}) = .ok spec ∧
      spec.key.text = "https://example.com/a%20b?q=1" ∧ Key.parse spec.key.text = .ok spec.key := by
  have hnormal : normalize (.plain "  HTTPS://Example.com:443/a b?q=1#top " {}) = .ok
      { url := "HTTPS://Example.com:443/a b?q=1#top", key := ⟨"https://example.com/a%20b?q=1"⟩,
        method := .get, cache := .unset, revalidate := none, kind := .plain, tags := [] } := rfl
  have hurl : Url.parse "HTTPS://Example.com:443/a b?q=1#top".toList = .ok
      { scheme := "https".toList, host := .named "example.com".toList,
        segments := ["a%20b".toList], query := some "q=1".toList } := rfl
  obtain ⟨u, hu, -, hread, hsteady⟩ := (keysAreCanonical.records _ _ hnormal).key
  obtain rfl := Except.ok.inj (hurl.symm.trans hu)
  have hself := hread (hsteady.mpr ⟨fun _ => rfl, fun hfile => absurd hfile (by decide)⟩)
  exact ⟨_, hnormal, rfl, hself.1⟩

/-- A drive letter behind empty segments comes to stand where it takes the place of the host. -/
example : Key.parse "file://host//C:/x" = .ok ⟨"file://host/C:/x"⟩ ∧
    Key.parse "file://host/C:/x" = .error (.invalidUrl "file://host/C:/x" .noHost) :=
  ⟨rfl, rfl⟩

end EdgeRender.Fetch
