import EdgeRender.Config.Mode
import EdgeRender.Request.Method

/-! # Diagnostics

Warnings about fetches, shown to developers. Within one scope a warning is spelled out
once; repeated, only the fetch is named. In production nothing is shown.
-/
namespace EdgeRender.Log

/-- A warning about a fetch. -/
structure Diagnostic where
  /-- What the fetch is for; warnings about different things are different. -/
  key : String
  method : Method
  url : String
  message : String
  deriving DecidableEq, Repr

namespace Diagnostic

/-- The fetch that the warning is about. -/
def requestLine (d : Diagnostic) : String :=
  d.method.text ++ " " ++ d.url

def text (d : Diagnostic) : String :=
  d.requestLine ++ ": " ++ d.message

def requestMark : String := " │ "

def warningMark : String := " │ │ ⚠ "

def identityLine (d : Diagnostic) : String :=
  requestMark ++ d.requestLine

def warningLine (d : Diagnostic) : String :=
  warningMark ++ d.message

end Diagnostic

inductive Emission where
  | emitted
  | duplicate
  | suppressed
  deriving DecidableEq, Repr

def Emission.name : Emission → String
  | .emitted => "emitted"
  | .duplicate => "duplicate"
  | .suppressed => "suppressed"

/-- The diagnostics of one request: the warnings spelled out so far, by key and
message. -/
structure DiagnosticScope where
  mode : RuntimeMode
  seen : List (String × String) := []
  deriving DecidableEq, Repr

namespace DiagnosticScope

/-- Show a diagnostic: what became of it, the lines it gives, and the scope after it. -/
def emit (s : DiagnosticScope) (d : Diagnostic) : Emission × List String × DiagnosticScope :=
  if !s.mode.emitsDiagnostics then (.suppressed, [], s)
  else if (d.key, d.message) ∈ s.seen then (.duplicate, [d.identityLine], s)
  else
    (.emitted, [d.identityLine, d.warningLine], { s with seen := (d.key, d.message) :: s.seen })

def count (s : DiagnosticScope) : Nat :=
  s.seen.length

def description (s : DiagnosticScope) : String :=
  "DiagnosticScope \x7b mode: " ++ s.mode.description ++ ", emitted: " ++ toString s.count ++
    " \x7d"

end DiagnosticScope

def emitterDescription (mode : RuntimeMode) : String :=
  "DiagnosticsEmitter \x7b mode: " ++ mode.description ++ ", .. \x7d"

end EdgeRender.Log
