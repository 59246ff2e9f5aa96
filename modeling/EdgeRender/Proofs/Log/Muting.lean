import EdgeRender.Proofs.Journal
import Mathlib.Data.List.Forall2

/-! # Journals of two modes

What is done in production leaves the same journal as in development, but without the lines
of the diagnostics. Where the log tells how much time has passed, the two may tell different
times. `Journal.Matches` compares a journal with one of production in this way.
-/
namespace EdgeRender

open EdgeRender.Log

namespace Log

/-- Is a line written for a diagnostic? Both of its lines begin with the same mark. -/
def isDiagnostic (line : String) : Bool := Diagnostic.requestMark.toList.isPrefixOf line.toList

/-- A field that tells how much time has passed tells nothing. -/
def timelessField (f : String × Json.Value) : String × Json.Value :=
  if f.1 = "elapsed_ms" then (f.1, .null) else f

/-- An entry without the time that has passed. -/
def Entry.timeless (e : Entry) : Entry :=
  { e with fields := e.fields.map timelessField, elapsedMicros := 0 }

/-- Two lines are the same up to the time that has passed. -/
inductive LineMatches : String → String → Prop
  | same (line : String) : LineMatches line line
  | entry (format : LogFormat) {e e' : Entry} (h : e'.timeless = e.timeless) :
      LineMatches (e.text format) (e'.text format)

@[simp] theorem timelessField_fst (f : String × Json.Value) : (timelessField f).1 = f.1 := by
  unfold timelessField
  split <;> rfl

/-- Where a member goes depends on its name only, which is left. -/
theorem map_timelessField_insertMember (k : String) (v : Json.Value)
    (ms : List (String × Json.Value)) :
    (Json.insertMember k v ms).map timelessField
      = Json.insertMember k (timelessField (k, v)).2 (ms.map timelessField) := by
  have hmember (k : String) (v : Json.Value) :
      timelessField (k, v) = (k, (timelessField (k, v)).2) :=
    Prod.ext (timelessField_fst (k, v)) rfl
  induction ms with
  | nil => rw [List.map_nil, Json.insertMember, Json.insertMember, ← hmember, List.map_cons,
      List.map_nil]
  | cons m ms ih =>
    obtain ⟨k', v'⟩ := m
    rw [List.map_cons, hmember k' v', Json.insertMember, Json.insertMember]
    split
    · simp only [List.map_cons, ← hmember]
    · split <;> simp only [List.map_cons, ← hmember, ih]

theorem map_timelessField_fieldsOf (fields : List Field) :
    (fieldsOf fields).map timelessField
      = (fields.map fun f => timelessField (f.name, f.value)).foldl
          (fun sorted m => Json.insertMember m.1 m.2 sorted) [] := by
  suffices h : ∀ sorted, (fields.foldl (fun sorted f => Json.insertMember f.name f.value sorted)
      sorted).map timelessField
        = (fields.map fun f => timelessField (f.name, f.value)).foldl
            (fun sorted m => Json.insertMember m.1 m.2 sorted) (sorted.map timelessField) from h []
  intro sorted
  induction fields generalizing sorted with
  | nil => rfl
  | cons f fields ih =>
    rw [List.foldl_cons, ih, map_timelessField_insertMember]
    simp

@[simp] theorem isDiagnostic_identityLine (d : Diagnostic) :
    isDiagnostic d.identityLine = true := by
  simp [isDiagnostic, Diagnostic.identityLine]

@[simp] theorem isDiagnostic_warningLine (d : Diagnostic) :
    isDiagnostic d.warningLine = true := by
  simp [isDiagnostic, Diagnostic.warningLine, Diagnostic.warningMark, Diagnostic.requestMark]

/-- An entry begins with a bracket, whatever its format and whatever it says. -/
@[simp] theorem isDiagnostic_text (e : Entry) (format : LogFormat) :
    isDiagnostic (e.text format) = false := by
  cases format with
  | human => simp [isDiagnostic, Entry.text, Entry.human, Diagnostic.requestMark, List.isPrefixOf_cons_cons]
  | json =>
    simp [isDiagnostic, Entry.text, Entry.json, Entry.members, Json.Value.text, Json.Value.write,
      Diagnostic.requestMark, List.isPrefixOf_cons_cons]

theorem isDiagnostic_of_matches {a b : String} (h : LineMatches a b) :
    isDiagnostic b = isDiagnostic a := by
  cases h with
  | same => rfl
  | entry => simp

end Log

namespace Event

def isDiagnostic : Event → Bool
  | .line text => Log.isDiagnostic text
  | .alert _ | .dispatch _ | .phase .. | .started .. | .note _ => false

/-- Two events are the same up to the time that a line tells. -/
inductive Matches : Event → Event → Prop
  | same (e : Event) : Matches e e
  | line {a b : String} (h : LineMatches a b) : Matches (.line a) (.line b)

theorem isDiagnostic_of_matches {e e' : Event} (h : e.Matches e') :
    e'.isDiagnostic = e.isDiagnostic := by
  cases h with
  | same => rfl
  | line h => exact Log.isDiagnostic_of_matches h

end Event

namespace Journal

/-- A journal, and what it would be in production. -/
inductive Matches : Journal → Journal → Prop
  | nil : Matches [] []
  | gone {e : Event} {j j' : Journal} (h : e.isDiagnostic = true) (hj : Matches j j') :
      Matches (e :: j) j'
  | kept {e e' : Event} {j j' : Journal} (h : e.isDiagnostic = false) (he : e.Matches e')
      (hj : Matches j j') : Matches (e :: j) (e' :: j')

namespace Matches

variable {j j' k k' : Journal}

theorem append (h : Matches j j') (hk : Matches k k') : Matches (j ++ k) (j' ++ k') := by
  induction h with
  | nil => exact hk
  | gone h _ ih => exact .gone h ih
  | kept h he _ ih => exact .kept h he ih

/-- What is no diagnostic is the same in production. -/
theorem of_plain (h : ∀ e ∈ k, e.isDiagnostic = false) : Matches k k := by
  induction k with
  | nil => exact .nil
  | cons e k ih =>
    exact .kept (h e List.mem_cons_self) (.same e) (ih fun e he => h e (List.mem_cons_of_mem _ he))

/-- Diagnostics are gone in production. -/
theorem of_diagnostics (h : ∀ e ∈ k, e.isDiagnostic = true) : Matches k [] := by
  induction k with
  | nil => exact .nil
  | cons e k ih =>
    exact .gone (h e List.mem_cons_self) (ih fun e he => h e (List.mem_cons_of_mem _ he))

/-- The line of an entry, of which only the time may be different. -/
theorem line? (logger : Logger) (t t' : Nat) (level : Level) (message : String)
    {fields fields' : List Field}
    (h : (fieldsOf fields').map timelessField = (fieldsOf fields).map timelessField) :
    Matches ((logger.line? t level message fields).toList.map .line)
      ((logger.line? t' level message fields').toList.map .line) := by
  unfold Logger.line?
  split
  · exact .nil
  · refine .kept ?_ (.line (.entry _ ?_)) .nil
    · simp [Event.isDiagnostic]
    · simp [Entry.timeless, h]

/-! ### What follows for production -/

/-- The lines are those that are no diagnostics. -/
theorem lines (h : Matches j j') :
    List.Forall₂ LineMatches (j.lines.filter (!isDiagnostic ·)) j'.lines := by
  induction h with
  | nil => exact .nil
  | @gone e j j' h _ ih =>
    cases e with
    | line text =>
      have htext : isDiagnostic text = true := h
      simpa [Journal.lines, Event.line?, htext] using ih
    | _ => cases h
  | @kept e e' j j' h he _ ih =>
    cases he with
    | same =>
      cases e with
      | line text =>
        have htext : isDiagnostic text = false := h
        simpa [Journal.lines, Event.line?, htext] using ⟨.same text, ih⟩
      | _ => exact ih
    | @line a b hab =>
      have ha : isDiagnostic a = false := h
      simpa [Journal.lines, Event.line?, ha] using ⟨hab, ih⟩

/-- No line of a diagnostic is left. -/
theorem silent (h : Matches j j') : ∀ e ∈ j', e.isDiagnostic = false := by
  induction h with
  | nil => simp
  | gone _ _ ih => exact ih
  | kept hplain he _ ih =>
    intro e hmem
    rcases List.mem_cons.mp hmem with rfl | hmem
    · exact (Event.isDiagnostic_of_matches he).trans hplain
    · exact ih e hmem

/-- Everything but the lines is the same, in the same order. -/
theorem others (h : Matches j j') :
    j'.filter (·.line?.isNone) = j.filter (·.line?.isNone) := by
  induction h with
  | nil => rfl
  | @gone e j j' h _ ih =>
    cases e with
    | line text => simpa [Event.line?] using ih
    | _ => cases h
  | @kept e e' j j' h he _ ih =>
    cases he with
    | same => simp only [List.filter_cons, ih]
    | line hab => simpa [Event.line?] using ih

theorem dispatches (h : Matches j j') : j'.dispatches = j.dispatches := by
  have hdispatch : ∀ j : Journal,
      j.dispatches = (j.filter (·.line?.isNone)).filterMap Event.dispatch? := by
    intro j
    unfold Journal.dispatches
    rw [List.filterMap_filter]
    congr 1
    funext e
    cases e <;> rfl
  rw [hdispatch, hdispatch, h.others]

end Matches
end Journal
end EdgeRender
