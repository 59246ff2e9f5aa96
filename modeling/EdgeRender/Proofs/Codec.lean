import EdgeRender.Config.Runtime
import EdgeRender.Proofs.Json.Typed

/-! # Codecs read what they write

A codec restores a value if it reads the value back from what it writes for it. Codecs of lists
restore lists whose items are restored, and codecs of records those whose fields are: a field
that is not written has the value that records begin with.
-/
namespace EdgeRender

open EdgeRender.Text

namespace Codec

open Json

/-- The codec reads what it writes for `x`. -/
def Restores (codec : Codec α) (x : α) : Prop := Reads codec.fromJson (codec.encode x) x

theorem Restores.parseJson {codec : Codec α} {x : α} (h : codec.Restores x) :
    codec.parseJson (Utf8.encode (codec.jsonText x).toList) = .ok x := by
  have hbytes : Utf8.encode (codec.jsonText x).toList = (codec.encode x).bytes := by
    rw [jsonText, Value.text, String.toList_ofList]
    rfl
  rw [Codec.parseJson, hbytes]
  exact h.run

/-! ## Codecs of simple values -/

theorem string_restores (s : String) : string.Restores s := reads_string s

theorem boolean_restores (b : Bool) : boolean.Restores b := reads_boolean b

theorem word64_restores (n : UInt64) : word64.Restores n := by
  have hmap := (reads_natural (Nat.le_refl 64) n.toNat_lt).map UInt64.ofNat
  rw [UInt64.ofNat_toNat] at hmap
  exact hmap

theorem word32_restores (n : UInt32) : word32.Restores n := by
  have hmap := (reads_natural (show 32 ≤ 64 by decide) n.toNat_lt).map UInt32.ofNat
  rw [UInt32.ofNat_toNat] at hmap
  exact hmap

theorem list_restores {item : Codec α} {xs : List α} (h : ∀ x ∈ xs, item.Restores x) :
    (list item).Restores xs :=
  reads_list h

theorem lookup_names {name : α → String} {all : List α} {x : α} (hx : x ∈ all)
    (h : ∀ y ∈ all, name y = name x → y = x) :
    (all.map fun y => (name y, y)).lookup (name x) = some x := by
  induction all with
  | nil => simp at hx
  | cons y all ih =>
    rw [List.map_cons, Json.lookup_member]
    by_cases hname : name x = name y
    · rw [if_pos hname, h y (by simp) hname.symm]
    · have hne : x ≠ y := fun hxy => hname (hxy ▸ rfl)
      rw [if_neg hname]
      exact ih (by simpa [hne] using hx) fun y' hy' => h y' (by simp [hy'])

/-- A choice restores what no other has the name of. -/
theorem choice_restores {name : α → String} {all : List α} {x : α} (hx : x ∈ all)
    (h : ∀ y ∈ all, name y = name x → y = x) : (choice name all).Restores x :=
  reads_choice (lookup_names hx h)

/-! ## Codecs of records -/

/-- What the fields, read back from what they write for `x`, set together. A field that is not
written sets nothing. -/
inductive Restoring (x : σ) : List (Field σ) → (σ → σ) → Prop where
  | nil : Restoring x [] id
  | written {field : Field σ} {fields : List (Field σ)} {v : Value} {set sets : σ → σ} :
      field.encode? x = some v → Reads field.fromJson v set → Restoring x fields sets →
      Restoring x (field :: fields) (sets ∘ set)
  | skipped {field : Field σ} {fields : List (Field σ)} {sets : σ → σ} :
      field.encode? x = none → field.needed = false → Restoring x fields sets →
      Restoring x (field :: fields) sets

/-- A field that is always written sets what it is written for. -/
theorem Restoring.of {x : σ} {fields : List (Field σ)} {sets : σ → σ} (h : Restoring x fields sets)
    {name : String} {codec : Codec α} {get : σ → α} {set : α → σ → σ} {needed : Bool}
    (hvalue : codec.Restores (get x)) :
    Restoring x (Field.of name codec get set needed :: fields) (sets ∘ set (get x)) :=
  .written rfl (Reads.map hvalue set) h

/-- A field that may be left out sets what it is written for, if it is written. -/
theorem Restoring.ofSkipped {x : σ} {fields : List (Field σ)} {sets : σ → σ}
    (h : Restoring x fields sets) {name : String} {codec : Codec α} {get : σ → α}
    {set : α → σ → σ} {skip : σ → Bool} {byPlace : Bool}
    (hvalue : skip x = false → codec.Restores (get x)) :
    Restoring x
      ({ (Field.of name codec get set false).skippedIf skip with neededByPlace := byPlace } ::
        fields)
      (if skip x then sets else sets ∘ set (get x)) := by
  cases hskip : skip x with
  | true => exact .skipped (if_pos hskip) rfl h
  | false =>
    show Restoring x _ (sets ∘ set (get x))
    exact .written (if_neg (by simp [hskip])) (Reads.map (hvalue hskip) set) h

def members (x : σ) (fields : List (Field σ)) : List (String × Value) :=
  fields.filterMap fun f => (f.encode? x).map (f.name, ·)

variable {x : σ} {field : Field σ} {fields : List (Field σ)} {v : Value} {sets : σ → σ}

theorem members_written (h : field.encode? x = some v) :
    members x (field :: fields) = (field.name, v) :: members x fields := by
  simp [members, h]

theorem members_skipped (h : field.encode? x = none) :
    members x (field :: fields) = members x fields := by
  simp [members, h]

/-- The members that fields have written are read one after another, and give all the fields
that are needed. -/
theorem Restoring.recordMembers (h : Restoring x fields sets) {all : List (Json.Field σ)}
    (hfind : ∀ f ∈ fields, all.find? (·.name == f.name) = some f.toJson)
    (hnodup : (fields.map (·.name)).Nodup) {seen : List String}
    (hnew : ∀ f ∈ fields, f.name ∉ seen) {bound : Nat}
    (hbound : (members x fields).length < bound) (first : Bool) (y : σ) (place : Place)
    (rest : List UInt8) :
    ∃ seen', recordMembers all bound first seen y
        ⟨place, memberBytes first (members x fields) ++ closeBrace :: rest⟩ =
        .ok ((seen', sets y),
          ⟨place.over (memberBytes first (members x fields)), closeBrace :: rest⟩) ∧
      (∀ name ∈ seen, name ∈ seen') ∧ ∀ f ∈ fields, f.needed = true → f.name ∈ seen' := by
  -- `seen` grows by the names of the fields that are written; those skipped need not be given.
  induction h generalizing seen bound first y place with
  | nil =>
    obtain ⟨bound, rfl⟩ := Nat.exists_eq_add_one_of_ne_zero (Nat.ne_of_gt hbound)
    refine ⟨seen, ?_, fun _ => id, by simp⟩
    cases first <;> exact recordMembers_end bound _ y place rest
  | @written field fields v set sets hwritten hread _ ih =>
    obtain ⟨bound, rfl⟩ :=
      Nat.exists_eq_add_one_of_ne_zero (Nat.ne_of_gt (Nat.zero_lt_of_lt hbound))
    rw [members_written hwritten] at hbound ⊢
    rw [List.map_cons, List.nodup_cons] at hnodup
    obtain ⟨hother, hnodup⟩ := hnodup
    have hnew' : ∀ f ∈ fields, f.name ∉ field.name :: seen := by
      intro f hf hmem
      rcases List.mem_cons.mp hmem with heq | hseen
      · exact hother (heq ▸ List.mem_map_of_mem hf)
      · exact hnew f (by simp [hf]) hseen
    have hknown : all.find? (·.name == field.toJson.name) = some field.toJson :=
      hfind field (by simp)
    have hmember := recordMembers_known hknown (hnew field (by simp)) hread bound first y place
      (separated_memberBytes (members x fields) rest)
    have hbound' : (members x fields).length < bound := by
      simp at hbound
      omega
    obtain ⟨seen', hrun, hkept, hgiven⟩ := ih (fun f hf => hfind f (by simp [hf])) hnodup hnew'
      hbound' false (set y) (place.over (memberText first field.name v))
    refine ⟨seen', ?_, fun name hname => hkept name (by simp [hname]), ?_⟩
    · rw [memberBytes, List.append_assoc, Place.over_append]
      exact hmember.trans hrun
    · intro f hf hneeded
      rcases List.mem_cons.mp hf with rfl | hf
      · exact hkept f.name (by simp)
      · exact hgiven f hf hneeded
  | @skipped field fields sets hskipped hneeded _ ih =>
    rw [members_skipped hskipped] at hbound ⊢
    rw [List.map_cons, List.nodup_cons] at hnodup
    obtain ⟨seen', hrun, hkept, hgiven⟩ := ih (fun f hf => hfind f (by simp [hf])) hnodup.2
      (fun f hf => hnew f (by simp [hf])) hbound first y place
    refine ⟨seen', hrun, hkept, fun f hf hf' => ?_⟩
    rcases List.mem_cons.mp hf with rfl | hf
    · rw [hneeded] at hf'
      contradiction
    · exact hgiven f hf hf'

/-- Fields of different names are found by their names. -/
theorem find?_toJson {all : List (Field σ)} (hnodup : (all.map (·.name)).Nodup) :
    ∀ f ∈ all, (all.map Field.toJson).find? (·.name == f.name) = some f.toJson := by
  induction all with
  | nil => simp
  | cons field all ih =>
    rw [List.map_cons, List.nodup_cons] at hnodup
    intro f hf
    rcases List.mem_cons.mp hf with rfl | hf
    · simp [Field.toJson]
    · have hne : field.name ≠ f.name := fun heq => hnodup.1 (heq ▸ List.mem_map_of_mem hf)
      rw [List.map_cons, List.find?_cons_of_neg (by simpa [Field.toJson] using hne)]
      exact ih hnodup.2 f hf

theorem missingField?_eq_none {seen : List String}
    (h : ∀ f ∈ fields, f.needed = true → f.name ∈ seen) :
    missingField? (fields.map Field.toJson) seen = none := by
  have hfind : (fields.map Field.toJson).find? (fun f => f.needed && !seen.contains f.name) =
      none := by
    refine List.find?_eq_none.mpr fun f hf hmissing => ?_
    obtain ⟨field, hfield, rfl⟩ := List.mem_map.mp hf
    obtain ⟨hneeded, hunseen⟩ := Bool.and_eq_true_iff.mp hmissing
    have hseen : field.name ∈ seen := h field hfield hneeded
    simp [Field.toJson, hseen] at hunseen
  rw [missingField?, hfind]
  rfl

/-- A written object is read as what its fields set together. -/
theorem Restoring.recordObject (h : Restoring x fields sets) (hnodup : (fields.map (·.name)).Nodup)
    (start : σ) (place : Place) (rest : List UInt8) :
    recordObject (fields.map Field.toJson) start
        ⟨place, (Json.Value.object (members x fields)).bytes ++ rest⟩ =
      .ok (sets start, ⟨place.over (Json.Value.object (members x fields)).bytes, rest⟩) := by
  have hcursor : (Json.Value.object (members x fields)).bytes ++ rest =
      openBrace :: (memberBytes true (members x fields) ++ closeBrace :: rest) := by
    rw [bytes_object]
    simp
  have hplace : place.over (Json.Value.object (members x fields)).bytes =
      ((place.after openBrace).over (memberBytes true (members x fields))).after closeBrace := by
    rw [bytes_object, Place.over_cons, Place.over_append]
    rfl
  have hbound : (members x fields).length <
      (memberBytes true (members x fields) ++ closeBrace :: rest).length + 1 := by
    have hlength := length_le_memberBytes true (members x fields)
    rw [List.length_append]
    omega
  have hnone : ∀ f ∈ fields, f.name ∉ ([] : List String) := by simp
  obtain ⟨seen, hrun, -, hgiven⟩ := h.recordMembers (find?_toJson hnodup) hnodup hnone hbound true
    start (place.after openBrace) rest
  rw [hcursor, hplace]
  -- the bytes between the braces stay as they are from here on
  generalize memberBytes true (members x fields) = text at *
  have hskip : skipByte ⟨place, openBrace :: (text ++ closeBrace :: rest)⟩ =
      .ok ((), ⟨place.after openBrace, text ++ closeBrace :: rest⟩) := rfl
  have hleft : bytesLeft ⟨place.after openBrace, text ++ closeBrace :: rest⟩ =
      .ok ((text ++ closeBrace :: rest).length,
        ⟨place.after openBrace, text ++ closeBrace :: rest⟩) := rfl
  have hclose : ∀ place, closeObject ⟨place, closeBrace :: rest⟩ =
      .ok ((), ⟨place.after closeBrace, rest⟩) := fun _ => rfl
  rw [Json.recordObject, bind_of_ok hskip]
  refine closing_of_ok ?_ (hclose _)
  rw [bind_of_ok hleft, bind_of_ok hrun]
  dsimp only
  rw [missingField?_eq_none hgiven]
  rfl

/-- A record is restored if what its fields set together makes it from the values that records
begin with. -/
theorem Restoring.restores (h : Restoring x fields sets) (hnodup : (fields.map (·.name)).Nodup)
    {name : String} {start : σ} (hsets : sets start = x) :
    (record name fields start).Restores x := by
  have hlead : LeadsValue openBrace := by
    unfold LeadsValue
    decide
  refine ⟨⟨_, _, bytes_object _, hlead⟩, fun place rest _ => ?_⟩
  have hpeek : peekValue ⟨place, (Json.Value.object (members x fields)).bytes ++ rest⟩ =
      .ok (openBrace, ⟨place, (Json.Value.object (members x fields)).bytes ++ rest⟩) := by
    rw [bytes_object]
    exact peekValue_cons hlead.1 place _
  show Json.record name (fields.map Field.toJson) start
      ⟨place, (Json.Value.object (members x fields)).bytes ++ rest⟩ =
    .ok (x, ⟨place.over (Json.Value.object (members x fields)).bytes, rest⟩)
  rw [Json.record, bind_of_ok hpeek, if_pos rfl, h.recordObject hnodup, hsets]

end Codec
end EdgeRender
