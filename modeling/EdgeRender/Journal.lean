import EdgeRender.Fetch.Fetcher
import EdgeRender.Log.Buffer
import EdgeRender.Log.Entry
import EdgeRender.Request.Context

/-! # The journal

Everything that a runtime does and that can be seen from outside, in order: lines for
the log, alerts for the operator, fetches handed over, phases of requests, deferred
tasks begun, and the notes that tasks leave.
-/
namespace EdgeRender

open EdgeRender.Log

/-- Something the operator should know, by its cause. -/
inductive Alert where
  /-- A deferred task came too late. -/
  | registrationDropped (source : String)
  | taskFailed (task : Nat) (source error : String)
  /-- Pending work was waited for in vain. -/
  | waitTimedOut (outstanding : Nat)
  /-- A drain ended without a report. -/
  | drainLost (error : String)
  /-- A canned response has no usable URL. -/
  | unroutable (url : String) (fault : Fetch.InputFault)
  deriving DecidableEq, Repr

/-- Something that can be seen from outside. Requests are numbered as they begin. -/
inductive Event where
  | line (text : String)
  | alert (alert : Alert)
  | dispatch (dispatch : Fetch.Dispatch)
  | phase (request : Nat) (phase : Phase)
  | started (request task : Nat)
  | note (text : String)
  deriving DecidableEq, Repr

inductive Sink where
  /-- Into a buffer in memory. -/
  | memory
  /-- To the operator, each as a warning. -/
  | alerts
  /-- To the error output of the process. -/
  | stderr
  deriving DecidableEq, Repr

structure Notice where
  level : Level
  message : String
  fields : List (String × String) := []
  deriving DecidableEq, Repr

def Alert.notice : Alert → Notice
  | .registrationDropped source =>
    ⟨.warn, "deferred task registered after the request finished; dropped",
      [("source", source)]⟩
  | .taskFailed task source error =>
    ⟨.error, "deferred task failed",
      [("task_id", toString task), ("source", source), ("error", error)]⟩
  | .waitTimedOut outstanding =>
    ⟨.warn, "pending deferred work did not finish before timeout",
      [("outstanding", toString outstanding)]⟩
  | .drainLost error => ⟨.error, "deferred task drain did not complete", [("error", error)]⟩
  | .unroutable url fault =>
    ⟨.warn, "ignoring unroutable url", [("url", url), ("error", fault.message)]⟩

namespace Event

def line? : Event → Option String
  | .line text => some text
  | _ => none

def note? : Event → Option String
  | .note text => some text
  | _ => none

def phase? : Event → Option Phase
  | .phase _ p => some p
  | _ => none

def notice? (sink : Sink) : Event → Option Notice
  | .alert a => some a.notice
  | .line text => if sink = .alerts then some ⟨.warn, text, []⟩ else none
  | _ => none

end Event

/-- The events so far, in order. -/
abbrev Journal := List Event

namespace Journal

def lines (j : Journal) : List String := j.filterMap Event.line?

def notes (j : Journal) : List String := j.filterMap Event.note?

def phases (j : Journal) : List Phase := j.filterMap Event.phase?

def notices (sink : Sink) (j : Journal) : List Notice := j.filterMap (Event.notice? sink)

@[simp] theorem lines_append (j k : Journal) : lines (j ++ k) = lines j ++ lines k :=
  List.filterMap_append

@[simp] theorem notes_append (j k : Journal) : notes (j ++ k) = notes j ++ notes k :=
  List.filterMap_append

@[simp] theorem phases_append (j k : Journal) : phases (j ++ k) = phases j ++ phases k :=
  List.filterMap_append

@[simp] theorem notices_append (sink : Sink) (j k : Journal) :
    notices sink (j ++ k) = notices sink j ++ notices sink k :=
  List.filterMap_append

/-- The buffer after the lines of the journal went to the sink. -/
def buffered (sink : Sink) (j : Journal) : Buffer :=
  if sink = .memory then Buffer.writeLines {} j.lines else {}

end Journal
end EdgeRender
