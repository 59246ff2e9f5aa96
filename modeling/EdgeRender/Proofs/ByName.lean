import EdgeRender.Config.Route
import EdgeRender.Fetch.Plan
import EdgeRender.Proofs.Json.Columns

/-! # Configurations and plans by name

Routes, runtimes and plans are read from objects by the names of their fields. The order of the
members does not count, nor do members of other names, whatever their values are.
-/
namespace EdgeRender

open Json

/-! ## Columns -/

/-- What a value means as one of several choices. -/
def chosenOf? (name : α → String) (all : List α) : Written → Option α :=
  chosen? (all.map fun x => (name x, x))

def RouteConfig.columns : List (Column RouteConfig) :=
  [⟨"pattern", text?, (·.pattern), fun s r => { r with pattern := s }, none⟩,
   ⟨"handler", text?, (·.handler), fun s r => { r with handler := s }, none⟩,
   ⟨"methods", items? text?, (·.methods), fun ss r => { r with methods := ss }, some ["GET"]⟩,
   ⟨"render_mode", chosenOf? RenderMode.name RenderMode.all, (·.renderMode),
     fun m r => { r with renderMode := m }, some .static⟩]

def RuntimeConfig.columns : List (Column RuntimeConfig) :=
  [⟨"mode", chosenOf? RuntimeMode.name RuntimeMode.all, (·.mode),
     fun m c => { c with mode := m }, some .production⟩,
   ⟨"host", chosenOf? HostModel.name HostModel.all, (·.host),
     fun m c => { c with host := m }, some .longRunning⟩,
   ⟨"deferred_task_timeout_ms", fun w => UInt64.ofNat <$> natural? 64 w, (·.taskTimeoutMillis),
     fun n c => { c with taskTimeoutMillis := n }, some 30000⟩,
   ⟨"log_format", chosenOf? LogFormat.name LogFormat.all, (·.logFormat),
     fun f c => { c with logFormat := f }, some .json⟩]

def Fetch.Plan.columns : List (Column Fetch.Plan) :=
  [⟨"cached", truth?, (·.cached), fun b p => { p with cached := b }, none⟩,
   ⟨"ttl_seconds", orNull? fun w => UInt32.ofNat <$> natural? 32 w, (·.ttl),
     fun n p => { p with ttl := n }, some none⟩,
   ⟨"tags", items? text?, (·.tags), fun ss p => { p with tags := ss }, some []⟩]

end EdgeRender
