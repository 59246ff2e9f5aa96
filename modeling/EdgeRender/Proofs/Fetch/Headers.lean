import EdgeRender.Fetch.Fetcher
import Mathlib.Data.List.Induction

/-! # Headers of several spellings

A response keeps a value for each spelling of a header's name, while a look-up takes the first
name it meets that is the same but for the case of letters. The order in which a look-up goes
over the headers is not laid down. So what was set is found for certain only if no other
spelling of the name holds another value.
-/
namespace EdgeRender.Fetch

open EdgeRender.Text

/-! ## Names up to case -/

theorem sameAsciiName_iff {a b : String} :
    sameAsciiName a b = true ↔ lowerAscii a = lowerAscii b := by
  simp [sameAsciiName]

theorem sameAsciiName_trans {a b c : String} (hab : sameAsciiName a b = true)
    (hbc : sameAsciiName b c = true) : sameAsciiName a c = true := by
  rw [sameAsciiName_iff] at *
  exact hab.trans hbc

theorem sameAsciiName_symm {a b : String} (h : sameAsciiName a b = true) :
    sameAsciiName b a = true := by
  rw [sameAsciiName_iff] at *
  exact h.symm

/-! ## Pairs with distinct names -/

variable {pairs : List (String × String)} {k v name value : String}

theorem map_fst_setPair (name value : String) (pairs : List (String × String)) :
    (setPair name value pairs).map Prod.fst =
      if name ∈ pairs.map Prod.fst then pairs.map Prod.fst else pairs.map Prod.fst ++ [name] := by
  induction pairs with
  | nil => rfl
  | cons pair rest ih =>
    obtain ⟨k, v⟩ := pair
    unfold setPair
    by_cases h : k = name
    · simp [h]
    · rw [if_neg h, List.map_cons, ih]
      by_cases hmem : name ∈ rest.map Prod.fst
      · rw [if_pos hmem, if_pos (by simp [hmem])]
        rfl
      · rw [if_neg hmem, if_neg (by simpa [Ne.symm h] using hmem)]
        rfl

/-- Setting a value keeps the names distinct. -/
theorem nodup_setPair (h : (pairs.map Prod.fst).Nodup) (name value : String) :
    ((setPair name value pairs).map Prod.fst).Nodup := by
  rw [map_fst_setPair]
  split
  · exact h
  · next hmem =>
    rw [List.nodup_append]
    refine ⟨h, by simp, ?_⟩
    intro a ha b hb
    rw [List.mem_singleton.mp hb]
    rintro rfl
    exact hmem ha

/-- Where names are distinct, what is looked up is what is there. -/
theorem mem_iff_lookup (h : (pairs.map Prod.fst).Nodup) :
    (k, v) ∈ pairs ↔ pairs.lookup k = some v := by
  induction pairs with
  | nil => simp
  | cons pair rest ih =>
    obtain ⟨k', v'⟩ := pair
    obtain ⟨hnew, hrest⟩ := List.nodup_cons.mp h
    rw [Json.lookup_member, List.mem_cons, ih hrest]
    by_cases hk : k = k'
    · subst hk
      have hnone : rest.lookup k ≠ some v := by
        intro hsome
        exact hnew (List.mem_map.mpr ⟨(k, v), (ih hrest).mpr hsome, rfl⟩)
      simp [hnone, eq_comm]
    · simp [hk]

/-- The last value that was set under exactly this name. -/
def lastSet? (sets : List (String × String)) (name : String) : Option String :=
  sets.reverse.lookup name

theorem lastSet?_concat (sets : List (String × String)) (k v name : String) :
    lastSet? (sets ++ [(k, v)]) name = if name = k then some v else lastSet? sets name := by
  rw [lastSet?, List.reverse_concat, Json.lookup_member]
  rfl

namespace Response

variable {r : Response} {found : Option String}

/-! ## Look-ups in any order -/

/-- What is found under a name if the headers are gone over in the given order. -/
def foundIn (order : List (String × String)) (name : String) : Option String :=
  (order.find? fun (k, _) => sameAsciiName k name).map Prod.snd

/-- Something that a look-up may give: it is found in some order of the headers. -/
def MayFind (r : Response) (name : String) (found : Option String) : Prop :=
  ∃ order, order.Perm r.headers ∧ foundIn order name = found

/-- The look-up goes over the headers in the order in which their names were first set. -/
theorem mayFind_header? (r : Response) (name : String) : r.MayFind name (r.header? name) :=
  ⟨r.headers, .refl _, rfl⟩

/-- Any value under a spelling of the name may be found. -/
theorem mayFind_some_iff :
    r.MayFind name (some v) ↔ ∃ k, sameAsciiName k name = true ∧ (k, v) ∈ r.headers := by
  constructor
  · rintro ⟨order, hperm, hfound⟩
    obtain ⟨⟨k, v'⟩, hfind, rfl⟩ := Option.map_eq_some_iff.mp hfound
    have hk : sameAsciiName k name = true := by simpa using List.find?_some hfind
    exact ⟨k, hk, hperm.mem_iff.mp (List.mem_of_find?_eq_some hfind)⟩
  · rintro ⟨k, hk, hmem⟩
    -- the order that begins with this spelling
    refine ⟨(k, v) :: r.headers.erase (k, v), (List.perm_cons_erase hmem).symm, ?_⟩
    simp [foundIn, hk]

theorem mayFind_none_iff :
    r.MayFind name none ↔ ∀ k v, (k, v) ∈ r.headers → sameAsciiName k name = false := by
  constructor
  · rintro ⟨order, hperm, hfound⟩ k v hmem
    have hnone := List.find?_eq_none.mp (Option.map_eq_none_iff.mp hfound)
    simpa using hnone (k, v) (hperm.mem_iff.mpr hmem)
  · intro h
    refine ⟨r.headers, .refl _, ?_⟩
    rw [foundIn, Option.map_eq_none_iff, List.find?_eq_none]
    rintro ⟨k, v⟩ hmem
    simp [h k v hmem]

/-- A value is found for certain if it stands under some spelling of the name, and no other
value does. -/
theorem mayFind_iff_eq_some_iff :
    (∀ found, r.MayFind name found ↔ found = some v) ↔
      (∃ k, sameAsciiName k name = true ∧ (k, v) ∈ r.headers) ∧
        ∀ k' v', sameAsciiName k' name = true → (k', v') ∈ r.headers → v' = v := by
  constructor
  · intro h
    refine ⟨mayFind_some_iff.mp ((h _).mpr rfl), ?_⟩
    intro k' v' hk' hmem'
    exact Option.some.inj ((h _).mp (mayFind_some_iff.mpr ⟨k', hk', hmem'⟩))
  · rintro ⟨⟨k, hk, hmem⟩, hother⟩ found
    cases found with
    | none =>
      have hfalse : ¬ r.MayFind name none := by
        intro hnone
        rw [mayFind_none_iff.mp hnone k v hmem] at hk
        cases hk
      simp [hfalse]
    | some w =>
      rw [mayFind_some_iff, Option.some.injEq]
      constructor
      · rintro ⟨k', hk', hmem'⟩
        exact hother k' w hk' hmem'
      · rintro rfl
        exact ⟨k, hk, hmem⟩

/-! ## Headers that were set -/

section Sets

variable (status : Nat) (body : List UInt8) (sets : List (String × String))

theorem ofHeaders_concat (k v : String) :
    ofHeaders status body (sets ++ [(k, v)]) = (ofHeaders status body sets).withHeader k v := by
  simp [ofHeaders]

theorem nodup_ofHeaders : ((ofHeaders status body sets).headers.map Prod.fst).Nodup := by
  induction sets using List.reverseRecOn with
  | nil => exact List.nodup_nil
  | append_singleton sets pair ih =>
    rw [ofHeaders_concat]
    exact nodup_setPair ih _ _

theorem lookup_ofHeaders (name : String) :
    (ofHeaders status body sets).headers.lookup name = lastSet? sets name := by
  induction sets using List.reverseRecOn with
  | nil => rfl
  | append_singleton sets pair ih =>
    rw [ofHeaders_concat, lastSet?_concat, ← ih]
    exact lookup_setPair _ _ _ _

/-- A header is the last value that was set under its name. -/
theorem mem_ofHeaders {k v : String} :
    (k, v) ∈ (ofHeaders status body sets).headers ↔ lastSet? sets k = some v := by
  rw [mem_iff_lookup (nodup_ofHeaders status body sets), lookup_ofHeaders]

/-- A header that is set stands beside those of other names. -/
theorem mem_withHeader_ofHeaders {k v k' v' : String} :
    (k', v') ∈ ((ofHeaders status body sets).withHeader k v).headers ↔
      if k' = k then v' = v else lastSet? sets k' = some v' := by
  rw [← ofHeaders_concat, mem_ofHeaders, lastSet?_concat]
  split
  · simp [eq_comm]
  · rfl

/-- No spelling of the name but this one was set to another value. -/
def Unrivalled (sets : List (String × String)) (name value : String) : Prop :=
  ∀ k v, k ≠ name → sameAsciiName k name = true → lastSet? sets k = some v → v = value

/-- What was set is found in every order if and only if it has no rival. -/
theorem mayFind_withHeader_iff {k v k' : String} (hk : sameAsciiName k' k = true) :
    (∀ found, ((ofHeaders status body sets).withHeader k v).MayFind k' found ↔ found = some v) ↔
      Unrivalled sets k v := by
  simp only [mayFind_iff_eq_some_iff, mem_withHeader_ofHeaders]
  constructor
  · rintro ⟨-, hother⟩ k₀ v₀ hne hsame hset
    refine hother k₀ v₀ (sameAsciiName_trans hsame (sameAsciiName_symm hk)) ?_
    rwa [if_neg hne]
  · intro h
    refine ⟨⟨k, sameAsciiName_symm hk, by simp⟩, ?_⟩
    intro k₀ v₀ hsame hmem
    split at hmem
    · exact hmem
    · next hne => exact h k₀ v₀ hne (sameAsciiName_trans hsame hk) hmem

/-- Other names are looked up as before. -/
theorem mayFind_withHeader_of_ne {k v name : String} (hname : sameAsciiName k name = false) :
    ((ofHeaders status body sets).withHeader k v).MayFind name found ↔
      (ofHeaders status body sets).MayFind name found := by
  have hmem : ∀ k' v', sameAsciiName k' name = true →
      ((k', v') ∈ ((ofHeaders status body sets).withHeader k v).headers ↔
        (k', v') ∈ (ofHeaders status body sets).headers) := by
    intro k' v' hsame
    have hne : k' ≠ k := by
      rintro rfl
      rw [hname] at hsame
      cases hsame
    rw [mem_withHeader_ofHeaders, if_neg hne, mem_ofHeaders]
  cases found with
  | none =>
    rw [mayFind_none_iff, mayFind_none_iff]
    refine forall₂_congr fun k' v' => ?_
    cases hsame : sameAsciiName k' name with
    | false => simp
    | true => rw [hmem k' v' hsame]
  | some w =>
    rw [mayFind_some_iff, mayFind_some_iff]
    refine exists_congr fun k' => and_congr_right fun hsame => hmem k' w hsame

/-- How headers that were set one after another are looked up, in whatever order a look-up goes
over them. -/
structure LooksUp : Prop where
  /-- The look-up gives one of what may be found. -/
  given : ∀ name, (ofHeaders status body sets).MayFind name
    ((ofHeaders status body sets).header? name)
  /-- What may be found is the last value of each spelling of the name. -/
  found : ∀ name v, (ofHeaders status body sets).MayFind name (some v) ↔
    ∃ k, sameAsciiName k name = true ∧ lastSet? sets k = some v
  /-- Nothing may be found only where no spelling of the name was set. -/
  missed : ∀ name, (ofHeaders status body sets).MayFind name none ↔
    ∀ k v, sameAsciiName k name = true → lastSet? sets k ≠ some v
  /-- One more header is found for certain, by any spelling of its name, if and only if no other
  spelling was set to another value. -/
  set : ∀ k v k', sameAsciiName k' k = true →
    ((∀ found, ((ofHeaders status body sets).withHeader k v).MayFind k' found ↔ found = some v) ↔
      Unrivalled sets k v)
  /-- To names that are no spelling of its own it makes no difference. -/
  others : ∀ k v name, sameAsciiName k name = false → ∀ found,
    ((ofHeaders status body sets).withHeader k v).MayFind name found ↔
      (ofHeaders status body sets).MayFind name found
  /-- If these headers belong to the response that is kept for a fetch, then the answer tells
  the plan of the fetch, and nothing else, under the same condition. -/
  planned : ∀ (c : Catalog) (spec : Spec) (plan : Plan) (name : String),
    (c.routes.lookup spec.key.text).getD .notFound = ofHeaders status body sets →
    sameAsciiName name "Cache-Control" = true →
    ∃ answer, (Catalog.fetcher.fetch spec plan c).1 = .ok answer ∧
      ((∀ found, answer.MayFind name found ↔ found = some plan.header) ↔
        Unrivalled sets "Cache-Control" plan.header)

/-- What is set under a name is found under every spelling of it, unless an earlier value of
another spelling stands in its way; so is the plan that is told with an answer from memory. -/
theorem looksUp_of_sets : LooksUp status body sets where
  given := mayFind_header? _
  found name v := by
    simp only [mayFind_some_iff, mem_ofHeaders]
  missed name := by
    simp only [mayFind_none_iff, mem_ofHeaders]
    refine forall₂_congr fun k v => ?_
    cases sameAsciiName k name <;> simp
  set _ _ _ := mayFind_withHeader_iff status body sets
  others _ _ _ hname _ := mayFind_withHeader_of_ne status body sets hname
  planned c spec plan name hkept hname := by
    refine ⟨(ofHeaders status body sets).withHeader "Cache-Control" plan.header, ?_,
      mayFind_withHeader_iff status body sets hname⟩
    rw [← hkept]
    rfl

/-- An older value of another spelling is found in the place of what was set, and in the place
of the plan of a fetch. -/
theorem header?_rivalled :
    let r := (ofHeaders 200 [] [("x-mode", "old")]).withHeader "X-Mode" "new"
    let url := "https://a.test/"
    let kept := ofHeaders 200 [] [("cache-control", "private")]
    let spec : Spec := ⟨url, ⟨url⟩, .get, .forceCache, none, .plain, []⟩
    let answer := Catalog.answer { routes := [(url, kept)] } spec .indefinitely
    r.header? "X-Mode" = some "old" ∧ r.header? "x-mode" = some "old" ∧
      answer.header? "Cache-Control" = some "private" ∧
      Plan.indefinitely.header = "s-maxage=31536000" := by
  decide +kernel

end Sets
end Response
end EdgeRender.Fetch
