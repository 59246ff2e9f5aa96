import EdgeRender.Proofs.Fetch.Keys
import EdgeRender.Proofs.Fetch.Routes
import EdgeRender.Proofs.Json.Columns
import EdgeRender.Proofs.WrittenForms

/-! # Decoded keys

A URL is read as a key, or refused. Any string is decoded as a key, whatever it spells: decoding
agrees with reading on the keys that are read as themselves, and these are the texts of steady
URLs. A key that no URL has is looked up in vain, whatever has been routed.
-/
namespace EdgeRender.Fetch

open EdgeRender.Text EdgeRender.Url EdgeRender.Json

/-! ## Canonical keys -/

namespace Key

variable {key : Key}

/-- The text of the key is read as the key. -/
def IsCanonical (key : Key) : Prop := Key.parse key.text = .ok key

instance (key : Key) : Decidable key.IsCanonical :=
  inferInstanceAs (Decidable (_ = _))

/-- Some URL is read as the key. -/
def HasUrl (key : Key) : Prop := ∃ url, Key.parse url = .ok key

theorem IsCanonical.hasUrl (h : key.IsCanonical) : key.HasUrl := ⟨key.text, h⟩

/-- The key of a URL is the text of a whole one. -/
theorem HasUrl.exists_isWhole (h : key.HasUrl) :
    ∃ u : Url, u.IsWhole ∧ key.text = .ofList u.text := by
  obtain ⟨url, hurl⟩ := h
  obtain ⟨u, hu, htext⟩ := exists_of_parse hurl
  exact ⟨u, isWhole_of_parse hu, htext⟩

/-- There are no blanks in the key of a URL, and no fragment. -/
theorem HasUrl.text_chars (h : key.HasUrl) : ∀ c ∈ key.text.toList, IsTextChar c := by
  obtain ⟨u, hwhole, htext⟩ := h.exists_isWhole
  rw [htext, String.toList_ofList]
  exact hwhole.text_chars

/-- The text of a whole URL is canonical if the URL is steady. -/
theorem isCanonical_of_isSteady {u : Url} (hwhole : u.IsWhole) (hsteady : u.IsSteady)
    (htext : key.text = .ofList u.text) : key.IsCanonical := by
  obtain rfl : key = ⟨.ofList u.text⟩ := congrArg Key.mk htext
  exact parse_text (hwhole.parse_text_iff.mpr hsteady) hwhole.text_chars

/-- The canonical keys are the texts of steady URLs. -/
theorem isCanonical_iff :
    key.IsCanonical ↔ ∃ u : Url, u.IsWhole ∧ u.IsSteady ∧ key.text = .ofList u.text := by
  constructor
  · intro h
    obtain ⟨u, hu, htext⟩ := exists_of_parse h
    have hwhole := isWhole_of_parse hu
    rw [trim_of_visible h.hasUrl.text_chars, htext, String.toList_ofList] at hu
    exact ⟨u, hwhole, hwhole.parse_text_iff.mp hu, htext⟩
  · rintro ⟨u, hwhole, hsteady, htext⟩
    exact isCanonical_of_isSteady hwhole hsteady htext

/-- A URL without a path has a key with one. -/
example : IsCanonical ⟨"https://a.test/"⟩ ∧ ¬ IsCanonical ⟨"https://a.test"⟩ := by
  decide

/-! ## Decoding -/

/-- What a value is decoded as, with blanks on either side: a key of any string, and nothing of
anything else. -/
theorem toOption_parseJson (before : Gap) (w : Written) (behind : Gap) :
    (codec.parseJson ((before.bytes ++ w.bytes) ++ behind.bytes)).toOption = Key.mk <$> text? w :=
  (understands_string.map Key.mk).run before w behind

/-- The values that are decoded as the key are the strings of its text. -/
theorem decoded_iff (before : Gap) (w : Written) (behind : Gap) :
    (codec.parseJson ((before.bytes ++ w.bytes) ++ behind.bytes)).toOption = some key ↔
      text? w = some key.text := by
  rw [toOption_parseJson, Option.map_eq_map, Option.map_eq_some_iff]
  constructor
  · rintro ⟨t, ht, rfl⟩
    exact ht
  · intro h
    exact ⟨key.text, h, rfl⟩

/-- A string is decoded as the key that it is read as just if it is the text of a canonical key. -/
theorem decodesAsRead_iff {w : Written} (h : text? w = some key.text) (before behind : Gap) :
    (codec.parseJson ((before.bytes ++ w.bytes) ++ behind.bytes)).toOption =
        (Key.parse key.text).toOption ↔ key.IsCanonical := by
  rw [(decoded_iff before w behind).mpr h, eq_comm]
  exact toOption_eq_some_iff

end Key

/-! ## Looking up -/

namespace Catalog

variable {key : Key}

/-- Something can be routed to the keys of URLs, and to no others. -/
theorem lastRouted?_isSome_iff :
    (∃ routings, (lastRouted? routings key).isSome) ↔ key.HasUrl := by
  constructor
  · rintro ⟨routings, h⟩
    obtain ⟨response, hlast⟩ := Option.isSome_iff_exists.mp h
    obtain ⟨⟨url, _⟩, hrouting, -⟩ := Option.map_eq_some_iff.mp hlast
    have hkey := (List.mem_filter.mp (List.mem_of_getLast? hrouting)).2
    exact ⟨url, of_decide_eq_true hkey⟩
  · rintro ⟨url, hurl⟩
    refine ⟨[(url, .notFound)], ?_⟩
    simp [lastRouted?, hurl]

variable {spec : Spec}

/-- A fetch of a key that no URL has finds nothing, whatever was routed. -/
theorem answer_of_not_hasUrl (h : ¬ spec.key.HasUrl) (routings : List (String × Response))
    (plan : Plan) :
    (routed routings).answer spec plan =
      Response.withHeader { status := 404, body := Utf8.encode "not found".toList }
        "Cache-Control" plan.header := by
  have hnone : lastRouted? routings spec.key = none := by
    rw [← Option.not_isSome_iff_eq_none]
    exact fun hsome => h (lastRouted?_isSome_iff.mp ⟨routings, hsome⟩)
  rw [answer, lookup_routed, hnone]
  rfl

/-- What is routed to the text of a canonical key is what its fetches get. -/
theorem answer_of_isCanonical (h : spec.key.IsCanonical) (routings : List (String × Response))
    (response : Response) (plan : Plan) :
    (routed (routings ++ [(spec.key.text, response)])).answer spec plan =
      response.withHeader "Cache-Control" plan.header := by
  have hparse : Key.parse spec.key.text = .ok spec.key := h
  rw [answer, lookup_routed, lastRouted?_concat, if_pos hparse]
  rfl

end Catalog

/-! ## Keys from text -/

/-- What is decoded as a key, and what is read as it. -/
structure IsDecoded (key : Key) : Prop where
  /-- However a value is written, it is decoded as the key if it is the string of its text, and not
  otherwise. -/
  decoded_iff : ∀ (before : Gap) (w : Written) (behind : Gap),
    (Key.codec.parseJson ((before.bytes ++ w.bytes) ++ behind.bytes)).toOption = some key ↔
      text? w = some key.text
  written : Key.codec.parseJson (Utf8.encode (Key.codec.jsonText key).toList) = .ok key
  /-- The string is decoded as what it is read as if, and only if, the key is canonical. -/
  asRead_iff : ∀ (before : Gap) (w : Written) (behind : Gap), text? w = some key.text →
    ((Key.codec.parseJson ((before.bytes ++ w.bytes) ++ behind.bytes)).toOption =
      (Key.parse key.text).toOption ↔ key.IsCanonical)
  canonical_iff :
    key.IsCanonical ↔ ∃ u : Url, u.IsWhole ∧ u.IsSteady ∧ key.text = .ofList u.text
  /-- If a URL has the key, it is the text of one, without blanks and without a fragment. It is
  canonical if that URL is steady. -/
  read : key.HasUrl →
    (∃ u : Url, u.IsWhole ∧ key.text = .ofList u.text ∧ (u.IsSteady → key.IsCanonical)) ∧
      ∀ c ∈ key.text.toList, IsTextChar c
  /-- What is routed to the text of a canonical key is served to its fetches. -/
  routed : key.IsCanonical → ∀ (routings : List (String × Response)) (response : Response)
    (spec : Spec) (plan : Plan), spec.key = key →
      (Catalog.routed (routings ++ [(key.text, response)])).answer spec plan =
        response.withHeader "Cache-Control" plan.header
  /-- If no URL has the key, nothing is ever served to its fetches. -/
  unrouted : ¬ key.HasUrl → ∀ (routings : List (String × Response)) (spec : Spec) (plan : Plan),
    spec.key = key → (Catalog.routed routings).answer spec plan =
      Response.withHeader { status := 404, body := Utf8.encode "not found".toList }
        "Cache-Control" plan.header

/-- Any key is decoded from its text as it stands, but only a canonical one is read from it. -/
theorem isDecoded (key : Key) : IsDecoded key where
  decoded_iff := Key.decoded_iff
  written := key.codec_restores.parseJson
  asRead_iff before _ behind h := Key.decodesAsRead_iff h before behind
  canonical_iff := Key.isCanonical_iff
  read h := by
    obtain ⟨u, hwhole, htext⟩ := h.exists_isWhole
    exact ⟨⟨u, hwhole, htext, fun hsteady => Key.isCanonical_of_isSteady hwhole hsteady htext⟩,
      h.text_chars⟩
  routed h routings response spec plan hkey := by
    subst hkey
    exact Catalog.answer_of_isCanonical h routings response plan
  unrouted h routings spec plan hkey := by
    subst hkey
    exact Catalog.answer_of_not_hasUrl h routings plan

/-- A URL with its fragment is decoded as a key. Reading drops the fragment, and no URL at all has
the key with it. -/
theorem decoded_fragment :
    Key.codec.parseJson (Utf8.encode "\"https://a.test/x#top\"".toList) =
        .ok ⟨"https://a.test/x#top"⟩ ∧
      Key.parse "https://a.test/x#top" = .ok ⟨"https://a.test/x"⟩ ∧
      ¬ Key.IsCanonical ⟨"https://a.test/x#top"⟩ ∧ ¬ Key.HasUrl ⟨"https://a.test/x#top"⟩ := by
  have hnone : ¬ Key.HasUrl ⟨"https://a.test/x#top"⟩ :=
    fun h => absurd (h.text_chars '#' (by decide)) (by decide)
  exact ⟨(Key.codec_restores ⟨"https://a.test/x#top"⟩).parseJson, rfl,
    fun h => hnone h.hasUrl, hnone⟩

end EdgeRender.Fetch
