import EdgeRender.Config.Mode
import EdgeRender.Duration

/-! # Runtime configuration

The settings of a runtime, their defaults, and the two presets.
-/
namespace EdgeRender

structure RuntimeConfig where
  mode : RuntimeMode := .production
  host : HostModel := .longRunning
  /-- The longest time one deferred task may take, in milliseconds. -/
  taskTimeoutMillis : UInt64 := 30000
  logFormat : LogFormat := .json
  deriving DecidableEq, Repr

def Codec.word64 : Codec UInt64 where
  encode n := .natural n.toNat
  fromJson := UInt64.ofNat <$> Json.natural 64
  fromToml item := UInt64.ofNat <$> (Codec.natural 64).fromToml item

def Codec.word32 : Codec UInt32 where
  encode n := .natural n.toNat
  fromJson := UInt32.ofNat <$> Json.natural 32
  fromToml item := UInt32.ofNat <$> (Codec.natural 32).fromToml item

namespace RuntimeConfig

def development : RuntimeConfig := { mode := .development, logFormat := .human }

def production : RuntimeConfig := {}

/-- The fields in their order. All may be left out. -/
def fields : List (Codec.Field RuntimeConfig) :=
  [.of "mode" RuntimeMode.codec (·.mode) (fun x c => { c with mode := x }) false,
   .of "host" HostModel.codec (·.host) (fun x c => { c with host := x }) false,
   .of "deferred_task_timeout_ms" .word64 (·.taskTimeoutMillis)
     (fun x c => { c with taskTimeoutMillis := x }) false,
   .of "log_format" LogFormat.codec (·.logFormat) (fun x c => { c with logFormat := x }) false]

def codec : Codec RuntimeConfig :=
  .record "RuntimeConfig" fields {}

/-- Bound deferred tasks by a span of time, in whole milliseconds. -/
def withTaskTimeout (c : RuntimeConfig) (d : Duration) : RuntimeConfig :=
  { c with taskTimeoutMillis := d.millis }

def taskTimeout (c : RuntimeConfig) : Duration :=
  .ofMillis c.taskTimeoutMillis

def description (c : RuntimeConfig) : String :=
  "RuntimeConfig \x7b mode: " ++ c.mode.description ++ ", host: " ++ c.host.description ++
    ", deferred_task_timeout_ms: " ++ toString c.taskTimeoutMillis.toNat ++
    ", log_format: " ++ c.logFormat.description ++ " \x7d"

end RuntimeConfig
end EdgeRender
