import EdgeRender.Duration

/-! # Drain reports

What became of the tasks of a request, in the order in which they ran.
-/
namespace EdgeRender.Deferred

inductive Failure where
  /-- It returned an error: its message and those of its causes. -/
  | failed (chain : List String)
  | panicked (message : String)
  | timedOut (limit : Duration)
  deriving DecidableEq, Repr

def Failure.message : Failure → String
  | .failed chain => ": ".intercalate chain
  | .panicked message => "panicked: " ++ message
  | .timedOut limit => "timed out after " ++ limit.text

structure Outcome where
  task : Nat
  source : String
  label : Option String
  failure : Option Failure
  deriving DecidableEq, Repr

def Outcome.isSuccess (o : Outcome) : Bool :=
  o.failure.isNone

/-- The outcomes of a drain that ran to its end. -/
structure Report where
  outcomes : List Outcome
  deriving DecidableEq, Repr

namespace Report

def executed (r : Report) : Nat :=
  r.outcomes.length

def succeeded (r : Report) : Nat :=
  r.outcomes.countP Outcome.isSuccess

def failed (r : Report) : Nat :=
  r.executed - r.succeeded

def order (r : Report) : List Nat :=
  r.outcomes.map (·.task)

theorem succeeded_add_failed (r : Report) : r.succeeded + r.failed = r.executed := by
  have hle : r.succeeded ≤ r.executed := List.countP_le_length
  exact Nat.add_sub_cancel' hle

end Report
end EdgeRender.Deferred
