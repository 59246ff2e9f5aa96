import EdgeRender.Config.Route
import EdgeRender.Request.Id
import EdgeRender.Request.Method

/-! # Requests

What is known of a request while its response is rendered, the marks set on the way,
and the phases it passes through.
-/
namespace EdgeRender

inductive Phase where
  | start
  | streaming
  | flushed
  | drained
  | aborted
  deriving DecidableEq, Repr

def Phase.description : Phase → String
  | .start => "Start"
  | .streaming => "Streaming"
  | .flushed => "Flushed"
  | .drained => "Drained"
  | .aborted => "Aborted"

structure Marks where
  names : List String := []
  deriving DecidableEq, Repr

namespace Marks

def mark (m : Marks) (name : String) : Marks :=
  if name ∈ m.names then m else ⟨name :: m.names⟩

def has (m : Marks) (name : String) : Bool :=
  m.names.contains name

theorem has_iff {m : Marks} {name : String} : m.has name ↔ name ∈ m.names := by
  simp [has]

theorem has_mark {m : Marks} {a b : String} : (m.mark a).has b ↔ b = a ∨ m.has b := by
  simp only [has_iff, mark]
  split
  · next h =>
    constructor
    · exact Or.inr
    · rintro (rfl | hb)
      · exact h
      · exact hb
  · simp

/-- A name that is marked already stays as it is marked. -/
theorem mark_eq_self_iff {m : Marks} {name : String} : m.mark name = m ↔ m.has name := by
  constructor
  · intro h
    rw [← h, has_mark]
    exact .inl rfl
  · intro h
    rw [mark, if_pos (has_iff.mp h)]

@[simp] theorem mark_mark (m : Marks) (name : String) : (m.mark name).mark name = m.mark name :=
  mark_eq_self_iff.mpr (has_mark.mpr (.inl rfl))

/-- The mark of the first byte and that of the last. -/
def firstByte : String := "first_byte"
def flushed : String := "flushed"

end Marks

structure RequestContext where
  requestId : RequestId
  method : Method
  path : String
  renderMode : RenderMode := .static
  marks : Marks := {}
  deriving DecidableEq, Repr

/-- A request that was matched to a route has the route's render mode. -/
def RequestContext.forRoute (route : RouteConfig) (requestId : RequestId) (method : Method)
    (path : String) : RequestContext :=
  { requestId, method, path, renderMode := route.renderMode }

end EdgeRender
