import EdgeRender.Log.Entry
import EdgeRender.Proofs.Json.Objects
import EdgeRender.Proofs.Text.Lines
import Mathlib.Tactic.Set

/-! # Entries in JSON

An entry in JSON is written on one line, which is read back as it was written, and parsed as an
object of the members of the entry.
-/
namespace EdgeRender.Log

open EdgeRender.Text EdgeRender.Json

structure Submission where
  elapsedMicros : UInt64
  level : Level
  message : String
  fields : List Field := []

namespace Submission

def given? (s : Submission) (name : String) : Option Value :=
  (s.fields.reverse.find? (·.name == name)).map Field.value

end Submission

namespace Logger

/-- The entry that is made of a submission. -/
def entry (l : Logger) (s : Submission) : Entry where
  level := s.level
  message := s.message
  requestId := l.requestId
  route := l.route
  fields := fieldsOf s.fields
  elapsedMicros := s.elapsedMicros.toNat

def admits (l : Logger) (s : Submission) : Bool := l.minLevel.rank ≤ s.level.rank

/-- The text that is written for a submission, if it is admitted. -/
def text? (l : Logger) (s : Submission) : Option String :=
  l.line? s.elapsedMicros.toNat s.level s.message s.fields

theorem text?_eq (l : Logger) (s : Submission) :
    l.text? s = if l.admits s then some ((l.entry s).text l.format) else none := by
  unfold text? line? admits
  by_cases h : l.minLevel.rank ≤ s.level.rank
  · rw [if_neg (Nat.not_lt.mpr h), if_pos (by simpa using h)]
    rfl
  · rw [if_pos (Nat.lt_of_not_le h), if_neg (by simpa using h)]

end Logger

/-! ## Fields -/

theorem Field.plain (f : Field) : Plain f.value := by
  cases f with
  | text name s => exact .string s
  | number name n => exact .natural (Nat.le_of_lt_succ n.toNat_lt)
  | duration name d => exact .natural (Nat.le_of_lt_succ d.millis.toNat_lt)

theorem fieldsOf_eq (fields : List Field) :
    fieldsOf fields = sortMembers (fields.map fun f => (f.name, f.value)) := by
  rw [fieldsOf, sortMembers, List.foldl_map]

theorem lookup_fieldsOf (s : Submission) (name : String) :
    (fieldsOf s.fields).lookup name = s.given? name := by
  rw [fieldsOf_eq, lookup_sortMembers, ← List.map_reverse, Submission.given?]
  generalize s.fields.reverse = fields
  induction fields with
  | nil => rfl
  | cons f fields ih =>
    rw [List.map_cons, lookup_member, List.find?_cons, ih]
    by_cases h : name = f.name
    · simp [h]
    · have hne : (f.name == name) = false := by simpa using Ne.symm h
      rw [if_neg h, hne]

theorem plain_of_mem_fieldsOf {fields : List Field} {m : String × Value}
    (h : m ∈ fieldsOf fields) : Plain m.2 := by
  rw [fieldsOf_eq] at h
  obtain ⟨f, -, rfl⟩ := List.mem_map.mp (mem_sortMembers h)
  exact f.plain

theorem nodup_fieldsOf (fields : List Field) : ((fieldsOf fields).map (·.1)).Nodup := by
  rw [fieldsOf_eq]
  exact (ordered_sortMembers _).nodup

theorem given?_eq_none_iff (s : Submission) (name : String) :
    s.given? name = none ↔ ∀ f ∈ s.fields, f.name ≠ name := by
  simp [Submission.given?]

/-! ## Members -/

namespace Entry

/-- The members of an entry that stand before its fields. -/
def front (e : Entry) : List (String × Value) :=
  [("level", .string e.level.name), ("message", .string e.message),
    ("request_id", .string e.requestId.text)] ++ (e.route.map fun r => ("route", .string r)).toList

/-- The member that stands behind them. -/
def back (e : Entry) : List (String × Value) := [("elapsed_us", .natural e.elapsedMicros)]

def own (e : Entry) : List (String × Value) := e.front ++ e.back

theorem members_eq (e : Entry) : e.members = e.front ++ (e.fields ++ e.back) := by
  simp [members, front, back]

/-- Only one member of the entry itself stands behind the fields. -/
theorem lookup_own (e : Entry) (name : String) :
    e.own.lookup name =
      if name = "elapsed_us" then e.back.lookup name else e.front.lookup name := by
  rw [own, List.lookup_append]
  by_cases h : name = "elapsed_us"
  · subst h
    cases hroute : e.route <;> simp [front, hroute, lookup_member]
  · simp [back, lookup_member, h]

theorem lookup_front_elapsed (e : Entry) : e.front.lookup "elapsed_us" = none := by
  cases hroute : e.route <;> simp [front, hroute, lookup_member]

theorem lookup_back {e : Entry} {name : String} (h : name ≠ "elapsed_us") :
    e.back.lookup name = none := by
  simp [back, lookup_member, h]

theorem nodup_own (e : Entry) : (e.own.map (·.1)).Nodup := by
  cases hroute : e.route <;> simp [own, front, back, hroute]

end Entry

variable {l : Logger} {s : Submission}

theorem plain_of_mem_members {m : String × Value} (h : m ∈ (l.entry s).members) : Plain m.2 := by
  rw [Entry.members_eq] at h
  rcases List.mem_append.mp h with h | h
  · cases hroute : l.route <;> simp [Entry.front, Logger.entry, hroute] at h
    · rcases h with rfl | rfl | rfl <;> exact .string _
    · rcases h with rfl | rfl | rfl | rfl <;> exact .string _
  · rcases List.mem_append.mp h with h | h
    · exact plain_of_mem_fieldsOf h
    · obtain rfl := List.mem_singleton.mp h
      exact .natural (Nat.le_of_lt_succ s.elapsedMicros.toNat_lt)

/-- The names of the members are different if no field has the name of a member of the entry
itself. -/
theorem nodup_members_iff :
    ((l.entry s).members.map (·.1)).Nodup ↔
      ∀ f ∈ s.fields, (l.entry s).own.lookup f.name = none := by
  set e := l.entry s with he
  have hfields : ∀ name, name ∈ e.fields.map (·.1) ↔ ∃ f ∈ s.fields, f.name = name := by
    intro name
    have hnone : e.fields.lookup name = none ↔ ∀ f ∈ s.fields, f.name ≠ name := by
      rw [he, ← given?_eq_none_iff, ← lookup_fieldsOf]
      rfl
    rw [lookup_eq_none_iff_notMem] at hnone
    rw [← not_iff_not, hnone]
    simp
  have hperm : (e.members.map (·.1)).Perm (e.own.map (·.1) ++ e.fields.map (·.1)) := by
    rw [← List.map_append, Entry.members_eq, Entry.own, List.append_assoc]
    exact (List.perm_append_comm.append_left _).map _
  rw [hperm.nodup_iff, List.nodup_append]
  constructor
  · rintro ⟨-, -, hne⟩ f hf
    rw [lookup_eq_none_iff_notMem]
    exact fun hown => hne _ hown _ ((hfields _).mpr ⟨f, hf, rfl⟩) rfl
  · intro hnone
    refine ⟨e.nodup_own, nodup_fieldsOf s.fields, ?_⟩
    rintro name hown _ hname rfl
    obtain ⟨f, hf, rfl⟩ := (hfields _).mp hname
    exact lookup_eq_none_iff_notMem.mp (hnone f hf) hown

/-- The first member of a name is the entry's own one, or else the field, but for the time. -/
theorem lookup_members (l : Logger) (s : Submission) (name : String) :
    (l.entry s).members.lookup name =
      if name = "elapsed_us" then (s.given? name).or ((l.entry s).own.lookup name)
      else ((l.entry s).own.lookup name).or (s.given? name) := by
  have hfields : (l.entry s).fields.lookup name = s.given? name := lookup_fieldsOf s name
  rw [Entry.members_eq, List.lookup_append, List.lookup_append, hfields, Entry.lookup_own]
  by_cases h : name = "elapsed_us"
  · subst h
    rw [Entry.lookup_front_elapsed, if_pos rfl, if_pos rfl, Option.none_or]
  · rw [Entry.lookup_back h, if_neg h, if_neg h, Option.or_none]

/-- The last member of a name is the field, or else the entry's own one, but for the time. -/
theorem lookup_reverse_members (l : Logger) (s : Submission) (name : String) :
    (l.entry s).members.reverse.lookup name =
      if name = "elapsed_us" then (l.entry s).own.lookup name
      else (s.given? name).or ((l.entry s).own.lookup name) := by
  have hfields : (l.entry s).fields.reverse.lookup name = s.given? name := by
    show (fieldsOf s.fields).reverse.lookup name = _
    rw [lookup_reverse (nodup_fieldsOf s.fields), lookup_fieldsOf]
  have hfront : (l.entry s).front.reverse.lookup name = (l.entry s).front.lookup name := by
    have hnodup := (l.entry s).nodup_own
    rw [Entry.own, List.map_append, List.nodup_append] at hnodup
    exact lookup_reverse hnodup.1 name
  have hback : (l.entry s).back.reverse = (l.entry s).back := rfl
  rw [Entry.members_eq, List.reverse_append, List.reverse_append, List.lookup_append,
    List.lookup_append, hfields, hfront, hback, Entry.lookup_own]
  by_cases h : name = "elapsed_us"
  · subst h
    rw [Entry.lookup_front_elapsed, if_pos rfl, if_pos rfl, Option.or_none]
    rfl
  · rw [Entry.lookup_back h, if_neg h, if_neg h, Option.none_or]

/-! ## Lines -/

end EdgeRender.Log
