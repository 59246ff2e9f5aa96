import EdgeRender.Codec
import EdgeRender.Text.Blank

/-! # Modes

The small choices that a configuration is made of. Each has a name, which is also its
written form, and a word by which descriptions show it. Where a choice may be given
as a setting, other spellings are understood as well.
-/
namespace EdgeRender

open EdgeRender.Text

/-- Does the runtime serve development, with diagnostics, or production? -/
inductive RuntimeMode where
  | development
  | production
  deriving DecidableEq, Repr

namespace RuntimeMode

def all : List RuntimeMode := [.development, .production]

def name : RuntimeMode → String
  | .development => "development"
  | .production => "production"

def description : RuntimeMode → String
  | .development => "Development"
  | .production => "Production"

/-- Diagnostics are written in development only. -/
def emitsDiagnostics : RuntimeMode → Bool
  | .development => true
  | .production => false

def ofName? : String → Option RuntimeMode
  | "development" | "dev" => some .development
  | "production" | "prod" => some .production
  | _ => none

def codec : Codec RuntimeMode := .choice name all

end RuntimeMode

/-- What happens to the process behind a response. -/
inductive HostModel where
  /-- It goes on serving requests. -/
  | longRunning
  /-- It may end as soon as the response is sent. -/
  | ephemeral
  deriving DecidableEq, Repr

namespace HostModel

def all : List HostModel := [.longRunning, .ephemeral]

def name : HostModel → String
  | .longRunning => "long-running"
  | .ephemeral => "ephemeral"

def description : HostModel → String
  | .longRunning => "LongRunning"
  | .ephemeral => "Ephemeral"

/-- An ephemeral host has to be told when no work is pending. -/
def requiresPendingSignal : HostModel → Bool
  | .longRunning => false
  | .ephemeral => true

def ofName? : String → Option HostModel
  | "long-running" | "server" => some .longRunning
  | "ephemeral" | "serverless" => some .ephemeral
  | _ => none

def codec : Codec HostModel := .choice name all

end HostModel

inductive LogFormat where
  | json
  | human
  deriving DecidableEq, Repr

namespace LogFormat

def all : List LogFormat := [.json, .human]

def name : LogFormat → String
  | .json => "json"
  | .human => "human"

def description : LogFormat → String
  | .json => "Json"
  | .human => "Human"

def codec : Codec LogFormat := .choice name all

end LogFormat

inductive RenderMode where
  /-- The page may be computed in advance. -/
  | static
  /-- The page is rendered for each request. -/
  | dynamic
  /-- The page must be rendered for each request, and what it fetches is not cached
  unless the fetch says so. -/
  | forceDynamic
  deriving DecidableEq, Repr

namespace RenderMode

def all : List RenderMode := [.static, .dynamic, .forceDynamic]

def name : RenderMode → String
  | .static => "static"
  | .dynamic => "dynamic"
  | .forceDynamic => "force-dynamic"

def description : RenderMode → String
  | .static => "Static"
  | .dynamic => "Dynamic"
  | .forceDynamic => "ForceDynamic"

def isPerRequest : RenderMode → Bool
  | .static => false
  | .dynamic | .forceDynamic => true

def ofName? : String → Option RenderMode
  | "static" | "auto" => some .static
  | "dynamic" => some .dynamic
  | "force-dynamic" => some .forceDynamic
  | _ => none

def codec : Codec RenderMode := .choice name all

end RenderMode

/-- A setting whose text means nothing. -/
structure SettingFault where
  setting : String
  text : String
  deriving DecidableEq, Repr

def SettingFault.message (f : SettingFault) : String :=
  "Invalid value for '" ++ f.setting ++ "': " ++ f.text

/-- Look up a setting's text, blanks around it put aside. -/
def parseSetting (setting : String) (ofName? : String → Option α) (text : String) :
    Except SettingFault α :=
  match ofName? text with
  | some x => .ok x
  | none => .error ⟨setting, text⟩

/-- A runtime mode as a setting; letter case does not matter. -/
def RuntimeMode.parse (text : String) : Except SettingFault RuntimeMode :=
  parseSetting "mode" ofName? (lowerAscii (trim text))

/-- A host model as a setting; letter case does not matter. -/
def HostModel.parse (text : String) : Except SettingFault HostModel :=
  parseSetting "host" ofName? (lowerAscii (trim text))

/-- A render mode as a setting; letter case matters. -/
def RenderMode.parse (text : String) : Except SettingFault RenderMode :=
  parseSetting "render_mode" ofName? (trim text)

end EdgeRender
