import EdgeRender.Proofs.Log.Entries

/-! # Fields under the names of members

The fields of an entry in JSON stand among the members of the entry itself, after those that tell
the level, the message, the request and the route, and before the time. A field may have the name
of one of these members; then there are two members of that name, and it depends on the reader
which of them is found.
-/
namespace EdgeRender.Log

open EdgeRender.Text EdgeRender.Json

/-- What is found under each name in the JSON text of an entry, fields having any names. -/
structure FoundByName (l : Logger) (s : Submission) : Prop where
  /-- All members stand in the text, one behind another. -/
  written : (objectOf (value 126)).run (Utf8.encode (l.entry s).json.toList) =
    .ok (l.entry s).members
  /-- Their names are different just if no field has the name of a member of the entry itself. -/
  distinct : ((l.entry s).members.map (·.1)).Nodup ↔
    ∀ f ∈ s.fields, (l.entry s).own.lookup f.name = none
  /-- Who keeps the first member of each name finds all members of the entry itself but the time,
  which a field takes the place of. -/
  first : ∀ name, (l.entry s).members.lookup name =
    if name = "elapsed_us" then (s.given? name).or ((l.entry s).own.lookup name)
    else ((l.entry s).own.lookup name).or (s.given? name)
  /-- Who keeps the last finds the time, but fields in the place of all others. -/
  last : ∃ members, parse (Utf8.encode (l.entry s).json.toList) = .ok (.object members) ∧
    ∀ name, members.lookup name =
      if name = "elapsed_us" then (l.entry s).own.lookup name
      else (s.given? name).or ((l.entry s).own.lookup name)

/-- What is found in an entry under a name, whatever names the fields have. -/
theorem foundByName (l : Logger) (s : Submission) : FoundByName l s where
  written := by
    have hmembers : ∀ m ∈ (l.entry s).members, Plain m.2 := fun m hm => plain_of_mem_members hm
    rw [Entry.json, Value.text, String.toList_ofList]
    exact (reads_objectOf hmembers 126).run
  distinct := nodup_members_iff
  first := lookup_members l s
  last := by
    refine ⟨_, parse_object fun m hm => plain_of_mem_members hm, fun name => ?_⟩
    rw [lookup_sortMembers, lookup_reverse_members]

/-- A field in the name of the request is found in its place. -/
theorem foundByName_spoofed :
    let e := Logger.entry { requestId := ⟨"req-1"⟩ } ⟨0, .info, "m", [.text "request_id" "req-2"]⟩
    ¬ (e.members.map (·.1)).Nodup ∧
      ∃ members, parse (Utf8.encode e.json.toList) = .ok (.object members) ∧
        members.lookup "request_id" = some (.string "req-2") := by
  refine ⟨by decide, _, parse_object fun m hm => plain_of_mem_members hm, ?_⟩
  rw [lookup_sortMembers]
  rfl

end EdgeRender.Log
