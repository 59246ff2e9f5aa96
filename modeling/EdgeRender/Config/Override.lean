import EdgeRender.Config.Runtime

/-! # Overrides

Settings given from outside, by the names of environment variables. Each that is given
replaces one field of a configuration; the log format cannot be given this way.
-/
namespace EdgeRender

open EdgeRender.Text

/-- The digits of a natural number, a plus sign before them allowed. -/
def naturalDigits? (s : List Char) : Option (List Char) :=
  let digits := if s.head? = some '+' then s.drop 1 else s
  if !digits.isEmpty && digits.all Char.isDigit then some digits else none

def parseWord64? (s : List Char) : Option UInt64 := do
  let n := (← naturalDigits? s).foldl (fun n c => n * 10 + (c.toNat - 48)) 0
  if n < UInt64.size then some (.ofNat n) else none

/-- A task timeout as a setting: milliseconds, with blanks around them put aside. -/
def parseTimeout (text : String) : Except SettingFault UInt64 :=
  match parseWord64? (trim text).toList with
  | some ms => .ok ms
  | none => .error ⟨"deferred_task_timeout_ms", text⟩

/-- The names under which settings are looked up. -/
def modeVariable : String := "EDGE_RUNTIME_MODE"
def hostVariable : String := "EDGE_HOST_MODEL"
def timeoutVariable : String := "EDGE_DEFERRED_TIMEOUT_MS"

def overridden (parse : String → Except SettingFault α) (old : α) :
    Option String → Except SettingFault α
  | some text => parse text
  | none => .ok old

/-- Apply the settings that `lookup` knows. The first faulty one in the order mode,
host, timeout is reported. -/
def RuntimeConfig.withOverrides (c : RuntimeConfig) (lookup : String → Option String) :
    Except SettingFault RuntimeConfig := do
  let mode ← overridden RuntimeMode.parse c.mode (lookup modeVariable)
  let host ← overridden HostModel.parse c.host (lookup hostVariable)
  let taskTimeoutMillis ← overridden parseTimeout c.taskTimeoutMillis (lookup timeoutVariable)
  pure { c with mode, host, taskTimeoutMillis }

end EdgeRender
