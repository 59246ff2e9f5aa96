import EdgeRender.Proofs.Log.Entries
import EdgeRender.Proofs.Text.ByteOrder

/-! # The order in which fields are given

Of the fields given for an entry, only the last value under each name shows. They stand in the
entry once each, in the order of the bytes of their names, so that entries of the same last values
read the same but for the time that is told.
-/
namespace EdgeRender.Log

open EdgeRender.Text EdgeRender.Json

/-! ## Fields -/

/-- The names are in the order of their bytes, none twice, and the last value given under each
stands behind it. -/
structure AreLastGiven (s : Submission) (fields : List (String × Value)) : Prop where
  ascending : fields.Pairwise fun m m' => Utf8.encode m.1.toList < Utf8.encode m'.1.toList
  once : ∀ name, (fields.map (·.1)).count name = if ∃ f ∈ s.fields, f.name = name then 1 else 0
  last : ∀ name, fields.lookup name = s.given? name

theorem ordered_fieldsOf (fields : List Field) : Ordered (fieldsOf fields) := by
  rw [fieldsOf_eq]
  exact ordered_sortMembers _

theorem areLastGiven_fieldsOf (s : Submission) : AreLastGiven s (fieldsOf s.fields) where
  ascending := (ordered_fieldsOf s.fields).imp fun hlt =>
    Utf8.encode_lt_encode (String.lt_iff.mp hlt)
  once name := by
    have hgiven : name ∈ (fieldsOf s.fields).map (·.1) ↔ ∃ f ∈ s.fields, f.name = name := by
      have hnone := given?_eq_none_iff s name
      rw [← lookup_fieldsOf, lookup_eq_none_iff_notMem] at hnone
      rw [← not_iff_not, hnone]
      simp
    rw [(nodup_fieldsOf s.fields).count]
    simp only [hgiven]
  last := lookup_fieldsOf s

/-- Fields of the same last values are the same. -/
theorem fieldsOf_eq_iff (s s' : Submission) :
    fieldsOf s.fields = fieldsOf s'.fields ↔ ∀ name, s.given? name = s'.given? name := by
  constructor
  · intro h name
    rw [← lookup_fieldsOf, ← lookup_fieldsOf, h]
  · intro h
    refine (ordered_fieldsOf _).ext (ordered_fieldsOf _) fun name => ?_
    rw [lookup_fieldsOf, lookup_fieldsOf, h]

/-! ## The time in JSON -/

theorem writeMembers_concat (ms : List (String × Value)) (k : String) (v : Value) :
    writeMembers (ms ++ [(k, v)]) = writeMembers ms ++ ',' :: (writeString k ++ ':' :: v.write) := by
  induction ms with
  | nil => simp [writeMembers]
  | cons m ms ih => simp [writeMembers, ih]

namespace Entry

/-- The JSON text of an entry up to the time. -/
def untimed (e : Entry) : List Char :=
  '\x7b' :: (writeMembers (e.front ++ e.fields)).tail ++ ',' :: (writeString "elapsed_us" ++ [':'])

/-- Nothing but the time comes behind. -/
theorem json_eq_untimed (e : Entry) : e.json.toList =
    e.untimed ++ (Value.natural e.elapsedMicros).write ++ ['\x7d'] := by
  obtain ⟨k, v, ms, hfront⟩ : ∃ k v ms, e.front = (k, v) :: ms := ⟨_, _, _, rfl⟩
  have hobject : e.json.toList = '\x7b' :: (writeMembers e.members).tail ++ ['\x7d'] := by
    rw [json, Value.text, String.toList_ofList, members_eq, hfront]
    rfl
  rw [hobject, members_eq, ← List.append_assoc, back, writeMembers_concat, untimed, hfront]
  simp [writeMembers]

end Entry

/-! ## Entries of the same fields -/

/-- What is logged for either is the same, but for the time. -/
structure ReadsTheSame (l : Logger) (s s' : Submission) : Prop where
  fields : (l.entry s).fields = (l.entry s').fields
  areLastGiven : AreLastGiven s (l.entry s).fields
  admits : l.admits s = l.admits s'
  human : (l.entry s).human = (l.entry s').human
  json : ∃ untimed : List Char,
    (l.entry s).json.toList =
      untimed ++ (Value.natural s.elapsedMicros.toNat).write ++ ['\x7d'] ∧
    (l.entry s').json.toList =
      untimed ++ (Value.natural s'.elapsedMicros.toNat).write ++ ['\x7d']
  /-- At the same time, the same is written, or nothing for either. -/
  text : s.elapsedMicros = s'.elapsedMicros → l.text? s = l.text? s'

/-- Entries read the same if the last value under each name is the same, whatever the order in
which the fields are given, and how often. -/
theorem readsTheSame_of_given (l : Logger) {s s' : Submission} (hlevel : s.level = s'.level)
    (hmessage : s.message = s'.message) (hgiven : ∀ name, s.given? name = s'.given? name) :
    ReadsTheSame l s s' := by
  have hfields : fieldsOf s.fields = fieldsOf s'.fields := (fieldsOf_eq_iff s s').mpr hgiven
  have hentry : l.entry s' = { l.entry s with elapsedMicros := s'.elapsedMicros.toNat } := by
    simp only [Logger.entry, hlevel, hmessage, hfields]
  refine ⟨hfields, areLastGiven_fieldsOf s, ?_, ?_, ⟨(l.entry s).untimed, ?_, ?_⟩, fun htime => ?_⟩
  · rw [Logger.admits, Logger.admits, hlevel]
  · rw [hentry]
    rfl
  · exact (l.entry s).json_eq_untimed
  · rw [hentry]
    exact Entry.json_eq_untimed _
  · rw [Logger.text?, Logger.text?, hlevel, hmessage, htime, Logger.line?, Logger.line?, hfields]

/-- A name given twice, and a number that a span of time comes to. -/
theorem readsTheSame_reordered :
    (∀ name, Submission.given? ⟨7, .info, "m", [.text "b" "x", .number "a" 1, .text "b" "y"]⟩ name =
      Submission.given? ⟨9, .info, "m", [.text "b" "y", .duration "a" (.ofMillis 1)]⟩ name) ∧
    ReadsTheSame { requestId := ⟨"req-1"⟩ }
      ⟨7, .info, "m", [.text "b" "x", .number "a" 1, .text "b" "y"]⟩
      ⟨9, .info, "m", [.text "b" "y", .duration "a" (.ofMillis 1)]⟩ :=
  ⟨(fieldsOf_eq_iff _ _).mp rfl,
    readsTheSame_of_given _ rfl rfl ((fieldsOf_eq_iff _ _).mp rfl)⟩

end EdgeRender.Log
