import EdgeRender.Proofs.Log.Entries

/-! # How a log grows

A logger writes one text for each submission that it admits. In JSON a text is one line. For
people the message and the fields stand in it as they are, and each line feed in them begins
another line.
-/
namespace EdgeRender.Log

open EdgeRender.Text EdgeRender.Json

namespace Logger

def log (l : Logger) (b : Buffer) (s : Submission) : Buffer := (l.text? s).elim b b.writeLine

def logAll (l : Logger) (b : Buffer) (ss : List Submission) : Buffer := ss.foldl l.log b

def admitted (l : Logger) (ss : List Submission) : List Entry := (ss.filter l.admits).map l.entry

/-- One text is written for each submission that is admitted. -/
theorem logAll_eq (l : Logger) (b : Buffer) (ss : List Submission) :
    l.logAll b ss = b.writeLines ((l.admitted ss).map (·.text l.format)) := by
  induction ss generalizing b with
  | nil => rfl
  | cons s ss ih =>
    have hstep : l.logAll b (s :: ss) = l.logAll (l.log b s) ss := rfl
    rw [hstep, ih, log, text?_eq, admitted, admitted, List.filter_cons]
    cases l.admits s <;> rfl

end Logger

/-! ## Line feeds -/

/-- The line feeds in the text of a field for people. -/
def fieldFeeds : String × Value → Nat
  | (k, .string s) => k.toList.count '\n' + s.toList.count '\n'
  | (k, _) => k.toList.count '\n'

theorem count_fieldText {m : String × Value} (h : Plain m.2) :
    (Entry.fieldText m).toList.count '\n' = fieldFeeds m := by
  obtain ⟨k, v⟩ := m
  cases h with
  | string s => simp [Entry.fieldText, fieldFeeds]
  | @natural n hn =>
    have hnone : (Value.natural n).text.toList.count '\n' = 0 := by
      rw [List.count_eq_zero, Value.text, String.toList_ofList]
      exact fun hmem => (Plain.natural hn).unbroken _ hmem (by decide)
    show (k ++ "=" ++ (Value.natural n).text).toList.count '\n' = k.toList.count '\n'
    simp [hnone]

theorem count_intercalate {s : String} (hs : '\n' ∉ s.toList) (ts : List String) :
    (s.intercalate ts).toList.count '\n' = (ts.map (·.toList.count '\n')).sum := by
  match ts with
  | [] => simp
  | [t] => simp
  | t :: u :: ts =>
    have ih := count_intercalate hs (u :: ts)
    rw [String.intercalate_cons_cons, String.toList_append, String.toList_append,
      List.count_append, List.count_append, ih, List.count_eq_zero.mpr hs, Nat.add_zero]
    rfl

namespace Entry

/-- The line feeds in the text of an entry. -/
def feeds (e : Entry) (format : LogFormat) : Nat := (e.text format).toList.count '\n'

/-- A text for people has the line feeds of the message and of the fields. -/
theorem feeds_human (e : Entry) (hfields : ∀ m ∈ e.fields, Plain m.2) :
    e.feeds .human = e.message.toList.count '\n' + (e.fields.map fieldFeeds).sum := by
  have hlabel : e.level.label.toList.count '\n' = 0 :=
    List.count_eq_zero.mpr (by cases e.level <;> decide)
  have hfeeds : (e.fields.map fieldText).map (·.toList.count '\n') = e.fields.map fieldFeeds := by
    rw [List.map_map]
    exact List.map_congr_left fun m hm => count_fieldText (hfields m hm)
  have hjoined : (" ".intercalate (e.fields.map fieldText)).toList.count '\n' =
      (e.fields.map fieldFeeds).sum := by
    rw [count_intercalate (by decide), hfeeds]
  unfold feeds text human
  by_cases hempty : e.fields = []
  · simp [hempty, hlabel]
  · simp only [List.isEmpty_iff, hempty, if_false, String.toList_append, List.count_append, hlabel,
      hjoined]
    simp

end Entry

/-! ## Growth -/

namespace Logger

/-- An entry in JSON is one line. -/
theorem linesOf_json (l : Logger) (s : Submission) :
    linesOf (l.entry s).json = [(l.entry s).json] := by
  have hmembers : ∀ m ∈ (l.entry s).members, Plain m.2 := fun m hm => plain_of_mem_members hm
  have hunbroken := unbroken_object hmembers
  exact linesOf_eq_self (fun h => hunbroken _ h (by decide)) fun h => hunbroken _ h (by decide)

theorem flatMap_linesOf_json (l : Logger) (ss : List Submission) :
    (l.admitted ss).flatMap (fun e => linesOf e.json) = (l.admitted ss).map Entry.json := by
  unfold admitted
  induction ss.filter l.admits with
  | nil => rfl
  | cons s ss ih => rw [List.map_cons, List.flatMap_cons, ih, linesOf_json]; rfl

theorem length_flatMap_linesOf (format : LogFormat) (es : List Entry) :
    (es.flatMap fun e => linesOf (e.text format)).length =
      es.length + (es.map (·.feeds format)).sum := by
  induction es with
  | nil => rfl
  | cons e es ih =>
    rw [List.flatMap_cons, List.length_append, ih, length_linesOf, List.map_cons, List.sum_cons,
      List.length_cons, Entry.feeds]
    omega

theorem lines_logAll (l : Logger) (before : List String) (ss : List Submission) :
    (l.logAll (Buffer.writeLines {} before) ss).lines =
      (Buffer.writeLines {} before).lines ++
        (l.admitted ss).flatMap fun e => linesOf (e.text l.format) := by
  rw [logAll_eq, ← Buffer.writeLines_append, lines_writeLines_eq, lines_writeLines_eq,
    List.flatMap_append, List.flatMap_map]

end Logger

/-- How a log grows, on top of whatever was written into it before. -/
structure Grows (l : Logger) (before : List String) (ss : List Submission) : Prop where
  /-- The lines of each entry that is admitted come behind those that were there, and no others. -/
  lines : (l.logAll (Buffer.writeLines {} before) ss).lines =
    (Buffer.writeLines {} before).lines ++
      (l.admitted ss).flatMap fun e => linesOf (e.text l.format)
  /-- An entry makes one line more than its text has line feeds. -/
  length : (l.logAll (Buffer.writeLines {} before) ss).lines.length =
    (Buffer.writeLines {} before).lines.length + (l.admitted ss).length +
      ((l.admitted ss).map (·.feeds l.format)).sum
  /-- So there is one line for each that is admitted just if none of their texts has line feeds. -/
  oneEach : (l.logAll (Buffer.writeLines {} before) ss).lines.length =
      (Buffer.writeLines {} before).lines.length + (l.admitted ss).length ↔
    ∀ e ∈ l.admitted ss, e.feeds l.format = 0
  /-- In JSON each line is the text of its entry. -/
  json : l.format = .json → (l.logAll (Buffer.writeLines {} before) ss).lines =
    (Buffer.writeLines {} before).lines ++ (l.admitted ss).map Entry.json
  /-- For people a text has the line feeds of the message and of the fields. -/
  human : ∀ e ∈ l.admitted ss,
    e.feeds .human = e.message.toList.count '\n' + (e.fields.map fieldFeeds).sum

/-- How a log of either format grows, whatever is logged. -/
theorem grows (l : Logger) (before : List String) (ss : List Submission) : Grows l before ss := by
  have hlength : (l.logAll (Buffer.writeLines {} before) ss).lines.length =
      (Buffer.writeLines {} before).lines.length + (l.admitted ss).length +
        ((l.admitted ss).map (·.feeds l.format)).sum := by
    rw [l.lines_logAll, List.length_append, Logger.length_flatMap_linesOf, Nat.add_assoc]
  refine ⟨l.lines_logAll before ss, hlength, ?_, fun h => ?_, fun e he => ?_⟩
  · rw [hlength, Nat.add_eq_left, List.sum_eq_zero_iff_forall_eq_nat, List.forall_mem_map]
  · rw [l.lines_logAll, h]
    exact congrArg _ (l.flatMap_linesOf_json ss)
  · obtain ⟨s, -, rfl⟩ := List.mem_map.mp he
    exact (l.entry s).feeds_human fun m hm => plain_of_mem_fieldsOf hm

/-- A line feed at the end of a message makes a second line. -/
theorem grows_twice :
    let l : Logger := { requestId := ⟨"req-1"⟩, format := .human }
    let ss : List Submission := [⟨0, .info, "a\n", []⟩]
    (l.admitted ss).length = 1 ∧ (l.logAll {} ss).lines = ["[INFO] a", ""] :=
  ⟨rfl, rfl⟩

end EdgeRender.Log
