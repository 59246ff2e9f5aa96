import EdgeRender.Server.Basic

/-! # Actions

What is done with a server from outside, one action after another, and the answers.
An action on a request that is no longer open, or not drained, changes nothing.
-/
namespace EdgeRender

open EdgeRender.Log EdgeRender.Fetch EdgeRender.Stream EdgeRender.Deferred

inductive RequestAction where
  /-- Register a task while the request is open. -/
  | after (task : Deferred.Task)
  /-- Register a task at any time. -/
  | register (task : Deferred.Task)
  | prepare (input : Input)
  | fetch (input : Input)
  | fetchJson (input : Input)
  | log (level : Level) (message : String) (fields : List Field)
  | send (chunk : List UInt8)
  | finishSink
  | dropReceiver
  | complete
  | abort
  | drop
  | hold (millis : Nat)
  | join

inductive Action where
  | begin (context : RequestContext) (channel : Channel)
  | request (k : Nat) (action : RequestAction)
  | shutdown (millis : Nat)
  | sleep (millis : Nat)

inductive Answer where
  | done
  | notOpen
  | notDrained
  | begun (k : Nat)
  | prepared (answer : Except InputFault Prepared)
  | fetched (answer : Except FetchFault Response)
  | parsed (answer : Except FetchFault Json.Value)
  | sent (answer : Except RenderFault Unit)
  | finished (answer : Except RenderFault Receipt)
  | completed (answer : Except RenderFault Unit)
  | discarded (count : Nat)
  | held (idle : Bool)
  | joined (report : Option Report)

namespace Server

/-- Act on a request that is open. -/
def whileOpen (srv : Server σ) (k : Nat) (act : RenderRequest → Answer × Server σ) :
    Answer × Server σ :=
  match srv.open? k with
  | some r => act r
  | none => (.notOpen, srv)

/-- Act on a request that is being drained. -/
def whileDrained (srv : Server σ) (k : Nat)
    (act : RenderRequest → Nat → Answer × Server σ) : Answer × Server σ :=
  match srv.request? k with
  | some r =>
    match r.drain with
    | some job => act r job
    | none => (.notDrained, srv)
  | none => (.notDrained, srv)

/-- Act on the sink of a request, which stays when the request is no longer open. -/
def onSink (srv : Server σ) (k : Nat) (act : RenderRequest → Answer × Server σ) :
    Answer × Server σ :=
  match srv.request? k with
  | some r => act r
  | none => (.notOpen, srv)

def actOn (srv : Server σ) (k : Nat) : RequestAction → Answer × Server σ
  | .after task => srv.whileOpen k fun _ => (.done, srv.register k task)
  | .register task => srv.onSink k fun _ => (.done, srv.register k task)
  | .prepare input => srv.whileOpen k fun r => (srv.prepare r input).map .prepared id
  | .fetch input => srv.whileOpen k fun r => (srv.fetch r input).map .fetched id
  | .fetchJson input => srv.whileOpen k fun r => (srv.fetchJson r input).map .parsed id
  | .log level message fields =>
    srv.whileOpen k fun r => (.done, srv.log r level message fields)
  | .send chunk => srv.onSink k fun r => (srv.send r chunk).map .sent id
  | .finishSink => srv.onSink k fun r => (srv.finishSink r).map .finished id
  | .dropReceiver => srv.onSink k fun r => (.done, srv.dropReceiver r)
  | .complete => srv.whileOpen k fun r => (srv.complete r).map .completed id
  | .abort => srv.whileOpen k fun r => (srv.abort r).map .discarded id
  | .drop => srv.whileOpen k fun r => (.done, (srv.close r).2)
  | .hold millis => srv.whileDrained k fun _ _ => (srv.hold millis).map .held id
  | .join => srv.whileDrained k fun r job => (srv.join r job).map .joined id

def act (srv : Server σ) : Action → Answer × Server σ
  | .begin context channel => (srv.begin context channel).map .begun id
  | .request k action => srv.actOn k action
  | .shutdown millis => (srv.shutdown millis).map .held id
  | .sleep millis => (.done, srv.sleep millis)

def run (srv : Server σ) : List Action → List Answer × Server σ
  | [] => ([], srv)
  | a :: as =>
    let (answer, srv) := srv.act a
    let (answers, srv) := srv.run as
    (answer :: answers, srv)

end Server
end EdgeRender
