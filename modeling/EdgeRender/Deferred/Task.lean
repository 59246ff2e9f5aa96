/-! # Deferred tasks

What a deferred task does, as a program: a setup that runs when the task is taken up,
and a body that may wait. Tasks may register further tasks.
-/
namespace EdgeRender.Deferred

/-- What a panic carries: a text, or something that has none. -/
inductive Payload where
  | text (message : String)
  | other
  deriving DecidableEq, Repr

def Payload.message : Payload → String
  | .text message => message
  | .other => "unknown panic payload"

/-- What a task does without waiting; `τ` is the type of tasks. -/
inductive Effect (τ : Type) where
  | note (text : String)
  /-- Note how many tasks are queued and how much work is pending. -/
  | observe
  | register (task : τ)
  | panic (payload : Payload)
  deriving Repr

inductive Step (τ : Type) where
  | effect (e : Effect τ)
  | sleep (millis : Nat)
  | yield
  /-- End with an error: its message and those of its causes, outermost first. -/
  | fail (chain : List String)
  deriving Repr

/-- A task, with the place that registers it and perhaps a label. -/
inductive Task where
  | make (site : String) (label : Option String) (setup : List (Effect Task))
      (body : List (Step Task))
  deriving Repr

def total (weight : α → Nat) : List α → Nat
  | [] => 0
  | x :: xs => weight x + total weight xs

@[simp] theorem total_append (weight : α → Nat) (xs ys : List α) :
    total weight (xs ++ ys) = total weight xs + total weight ys := by
  induction xs with
  | nil => simp [total]
  | cons x xs ih => simp only [List.cons_append, total, ih]; omega

namespace Task

def site : Task → String
  | make site .. => site

def label : Task → Option String
  | make _ label .. => label

def setup : Task → List (Effect Task)
  | make _ _ setup _ => setup

def body : Task → List (Step Task)
  | make _ _ _ body => body

def source (t : Task) : String :=
  match t.label with
  | some label => label ++ " (" ++ t.site ++ ")"
  | none => t.site

mutual

/-- A bound on the work that a task gives: taking it up, its steps, and the tasks that
it registers. -/
def weight : Task → Nat
  | make _ _ setup body => 3 + setupWeight setup + bodyWeight body

def setupWeight : List (Effect Task) → Nat
  | [] => 0
  | e :: es => effectWeight e + setupWeight es

def effectWeight : Effect Task → Nat
  | .register t => 1 + weight t
  | .note _ | .observe | .panic _ => 1

def bodyWeight : List (Step Task) → Nat
  | [] => 0
  | s :: ss => stepWeight s + bodyWeight ss

/-- Falling asleep and waking up are two steps. -/
def stepWeight : Step Task → Nat
  | .effect e => effectWeight e
  | .sleep _ => 2
  | .yield | .fail _ => 1

end

end Task
end EdgeRender.Deferred
