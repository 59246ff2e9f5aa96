import EdgeRender.Deferred.EventLoop
import EdgeRender.Fetch.Client
import EdgeRender.Stream.Sink

/-! # The server

Requests that are rendered under one configuration. Each has a client for what it
fetches, a sink for its response and a queue of tasks for afterwards. A request is open
until it is completed, aborted or dropped; only completing it lets its tasks run.
-/
namespace EdgeRender

open EdgeRender.Log EdgeRender.Fetch EdgeRender.Stream EdgeRender.Deferred

/-- A request and what belongs to it. Requests are numbered as they begin. -/
structure RenderRequest where
  number : Nat
  context : RequestContext
  client : Client
  logger : Logger
  /-- Is the request still being rendered? -/
  isOpen : Bool := true
  sink : ResponseSink := {}
  /-- The job that drains the tasks, until its report has been taken. -/
  drain : Option Nat := none

def RenderRequest.description (r : RenderRequest) (host : HostModel) (deferred : Nat) : String :=
  "RenderScope \x7b request_id: " ++ r.context.requestId.description ++ ", render_mode: " ++
    r.context.renderMode.description ++ ", host: " ++ host.description ++ ", deferred: " ++
    toString deferred ++ ", .. \x7d"

/-- A server; `σ` is the state of what fetches for it. -/
structure Server (σ : Type) where
  config : RuntimeConfig
  /-- Is there an observer who is told the phases of requests? -/
  observed : Bool := true
  fetcher : Fetcher σ
  fetches : σ
  loop : EventLoop := {}
  requests : List RenderRequest := []

namespace Server

def record (srv : Server σ) (events : List Event) : Server σ :=
  { srv with loop := srv.loop.record events }

/-- Tell the observer, if there is one. -/
def notify (srv : Server σ) (request : Nat) (phase : Phase) : Server σ :=
  if srv.observed then srv.record [.phase request phase] else srv

def request? (srv : Server σ) (k : Nat) : Option RenderRequest :=
  srv.requests[k]?

/-- The request, if it is still being rendered. -/
def open? (srv : Server σ) (k : Nat) : Option RenderRequest :=
  (srv.request? k).filter (·.isOpen)

def putRequest (srv : Server σ) (r : RenderRequest) : Server σ :=
  { srv with requests := srv.requests.set r.number r }

def log (srv : Server σ) (r : RenderRequest) (level : Level) (message : String)
    (fields : List Field) : Server σ :=
  srv.record ((r.logger.line? srv.loop.elapsedMicros level message fields).toList.map .line)

/-- The time since a request began, as the log gives it. -/
def elapsed (srv : Server σ) : Duration where
  seconds := .ofNat (srv.loop.elapsedMicros / 1000000)
  nanos := srv.loop.elapsedMicros % 1000000 * Duration.perMicro
  nanos_lt := by simp only [Duration.perMicro]; omega

/-- Begin to render a request. Its response goes to the given channel. -/
def begin (srv : Server σ) (context : RequestContext) (channel : Channel) : Nat × Server σ :=
  let logger : Logger :=
    { requestId := context.requestId, route := some context.path,
      format := srv.config.logFormat }
  let client : Client :=
    { requestId := context.requestId, renderMode := context.renderMode,
      diagnostics := { mode := srv.config.mode } }
  let (number, loop) := srv.loop.addScheduler { logger, limit := srv.config.taskTimeout }
  let request : RenderRequest := { number, context, client, logger, sink := { channel } }
  (number,
    { srv with loop, requests := srv.requests ++ [request] }.notify number .start)

def register (srv : Server σ) (k : Nat) (task : Deferred.Task) : Server σ :=
  { srv with loop := srv.loop.register k task }

def prepare (srv : Server σ) (r : RenderRequest) (input : Input) :
    Except InputFault Prepared × Server σ :=
  let (prepared, events, client) := r.client.prepare input
  (prepared, (srv.record events).putRequest { r with client })

def fetch (srv : Server σ) (r : RenderRequest) (input : Input) :
    Except FetchFault Response × Server σ :=
  let (answer, events, client, fetches) := r.client.fetch srv.fetcher input srv.fetches
  (answer, { srv with fetches }.record events |>.putRequest { r with client })

def fetchJson (srv : Server σ) (r : RenderRequest) (input : Input) :
    Except FetchFault Json.Value × Server σ :=
  let (answer, events, client, fetches) := r.client.fetchJson srv.fetcher input srv.fetches
  (answer, { srv with fetches }.record events |>.putRequest { r with client })

def send (srv : Server σ) (r : RenderRequest) (chunk : List UInt8) :
    Except RenderFault Unit × Server σ :=
  let (answer, sink) := r.sink.sendChunk chunk
  (answer, srv.putRequest { r with sink })

/-- Finish the response without completing the request. -/
def finishSink (srv : Server σ) (r : RenderRequest) :
    Except RenderFault Receipt × Server σ :=
  let (answer, sink) := r.sink.finish
  (answer, srv.putRequest { r with sink })

/-- The client goes away. -/
def dropReceiver (srv : Server σ) (r : RenderRequest) : Server σ :=
  srv.putRequest { r with sink := { r.sink with channel := r.sink.channel.dropReceiver } }

/-- Drop the tasks of a request and close it. -/
def close (srv : Server σ) (r : RenderRequest) : Nat × Server σ :=
  let (count, loop) := srv.loop.discard r.number
  (count, { srv with loop }.putRequest { r with isOpen := false })

/-- Complete a request: its response is finished, and then its tasks run. If it cannot
be finished, the tasks are dropped. -/
def complete (srv : Server σ) (r : RenderRequest) : Except RenderFault Unit × Server σ :=
  match r.sink.finish with
  | (.error fault, sink) =>
    let r := { r with sink }
    let (count, srv) := srv.close r
    let srv := srv.log r .error "response flush failed"
      [.text "error" fault.message, .number "discarded_tasks" (.ofNat count)]
    (.error fault, srv.notify r.number .aborted)
  | (.ok receipt, sink) =>
    let srv := srv.log r .info "response flushed"
      [.number "bytes" (.ofNat receipt.bytes),
        .number "deferred_tasks" (.ofNat (srv.loop.queued r.number)),
        .duration "elapsed_ms" srv.elapsed]
    let srv := srv.notify r.number .flushed
    let hook := if srv.observed then Hook.observe else .nothing
    let (job, loop) := srv.loop.startDrain r.number hook ""
    (.ok (), { srv with loop }.putRequest { r with sink, isOpen := false, drain := some job })

/-- Abort a request; the number of tasks dropped is returned. -/
def abort (srv : Server σ) (r : RenderRequest) : Nat × Server σ :=
  let (count, srv) := srv.close r
  let srv := srv.log r .warn "render aborted" [.number "discarded_tasks" (.ofNat count)]
  (count, srv.notify r.number .aborted)

/-- Wait until the process may end, on account of a request that has been completed. -/
def hold (srv : Server σ) (millis : Nat) : Bool × Server σ :=
  let (held, loop) := srv.loop.holdTermination srv.config.host millis
  (held, { srv with loop })

def join (srv : Server σ) (r : RenderRequest) (job : Nat) : Option Report × Server σ :=
  let (report, loop) := srv.loop.join job
  (report, { srv with loop }.putRequest { r with drain := none })

/-- Wait until no work is pending. -/
def shutdown (srv : Server σ) (millis : Nat) : Bool × Server σ :=
  let (idle, loop) := srv.loop.waitIdle millis
  (idle, { srv with loop })

def sleep (srv : Server σ) (millis : Nat) : Server σ :=
  { srv with loop := srv.loop.sleep millis }

def description (srv : Server σ) : String :=
  "EdgeRuntime \x7b config: " ++ srv.config.description ++ ", pending: " ++
    toString srv.loop.pending.count ++ ", .. \x7d"

end Server
end EdgeRender
