import EdgeRender.Config.Mode
import EdgeRender.Duration
import EdgeRender.Request.Id

/-! # Log entries

An entry has a level, a message, the request it belongs to and fields ordered by name.
It is written on one line, as a JSON object or for people to read.
-/
namespace EdgeRender.Log

open EdgeRender.Json

inductive Level where
  | trace | debug | info | warn | error
  deriving DecidableEq, Repr

namespace Level

def all : List Level := [.trace, .debug, .info, .warn, .error]

def rank : Level → Nat
  | .trace => 0
  | .debug => 1
  | .info => 2
  | .warn => 3
  | .error => 4

def name : Level → String
  | .trace => "trace"
  | .debug => "debug"
  | .info => "info"
  | .warn => "warn"
  | .error => "error"

def label : Level → String
  | .trace => "TRACE"
  | .debug => "DEBUG"
  | .info => "INFO"
  | .warn => "WARN"
  | .error => "ERROR"

def description : Level → String
  | .trace => "Trace"
  | .debug => "Debug"
  | .info => "Info"
  | .warn => "Warn"
  | .error => "Error"

end Level

inductive Field where
  | text (name text : String)
  | number (name : String) (n : UInt64)
  | duration (name : String) (d : Duration)
  deriving Repr

def Field.name : Field → String
  | .text name _ | .number name _ | .duration name _ => name

/-- A span of time is written in whole milliseconds. -/
def Field.value : Field → Value
  | .text _ s => .string s
  | .number _ n => .natural n.toNat
  | .duration _ d => .natural d.millis.toNat

/-- Fields by name; of several given under one name the last counts. -/
def fieldsOf (fields : List Field) : List (String × Value) :=
  fields.foldl (fun sorted f => insertMember f.name f.value sorted) []

structure Entry where
  level : Level
  message : String
  requestId : RequestId
  route : Option String := none
  fields : List (String × Value) := []
  /-- Microseconds since the request began to be logged. -/
  elapsedMicros : Nat := 0

namespace Entry

/-- The members of the JSON form. The fields stand among the members of the entry
itself, whatever their names. -/
def members (e : Entry) : List (String × Value) :=
  [("level", .string e.level.name), ("message", .string e.message),
    ("request_id", .string e.requestId.text)] ++
  (e.route.map fun r => ("route", .string r)).toList ++
  e.fields ++ [("elapsed_us", .natural e.elapsedMicros)]

def json (e : Entry) : String :=
  (Value.object e.members).text

/-- A field for people: a string without quotes, any other value as JSON. -/
def fieldText : String × Value → String
  | (k, .string s) => k ++ "=" ++ s
  | (k, v) => k ++ "=" ++ v.text

def human (e : Entry) : String :=
  let fields :=
    if e.fields.isEmpty then "" else " | " ++ " ".intercalate (e.fields.map fieldText)
  "[" ++ e.level.label ++ "] " ++ e.message ++ fields

def text (e : Entry) : LogFormat → String
  | .json => e.json
  | .human => e.human

end Entry

structure Logger where
  requestId : RequestId
  route : Option String := none
  minLevel : Level := .info
  format : LogFormat := .json
  deriving Repr

namespace Logger

/-- The line of an entry, unless its level is too low. -/
def line? (l : Logger) (elapsedMicros : Nat) (level : Level) (message : String)
    (fields : List Field) : Option String :=
  if level.rank < l.minLevel.rank then none
  else
    let entry : Entry :=
      { level, message, requestId := l.requestId, route := l.route,
        fields := fieldsOf fields, elapsedMicros }
    some (entry.text l.format)

def description (l : Logger) : String :=
  let route :=
    match l.route with
    | some r => "Some(" ++ Text.Quoted.quote r ++ ")"
    | none => "None"
  "StructuredLogger \x7b request_id: " ++ l.requestId.description ++ ", route: " ++ route ++
    ", min_level: " ++ l.minLevel.description ++ ", format: " ++ l.format.description ++
    ", .. \x7d"

end Logger
end EdgeRender.Log
