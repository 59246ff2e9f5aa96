import EdgeRender.Proofs.Deferred.Interleaving
import EdgeRender.Proofs.Deferred.Share
import EdgeRender.Server.Action

/-! # Runs of a server

Between two looks at a server something is done with a request, or its loop goes on; and
a scheduler is dropped once more when it has ended. `Reaches` is any sequence of these, in
any order. With whole turns it contains everything that actions can do to a server, those
that wait included; with single steps it contains that and more.
-/
namespace EdgeRender

open EdgeRender.Deferred Relation

/-- Is an action done at once, without a wait? -/
def Action.isPrompt : Action → Bool
  | .request _ (.hold _) | .request _ .join | .shutdown _ | .sleep _ => false
  | .begin .. | .request .. => true

namespace Server

variable {σ : Type}

/-- What may happen to a server between two looks at it, if `R` is what its loop may do. -/
inductive Next (R : EventLoop → EventLoop → Prop) (srv : Server σ) : Server σ → Prop
  | acted (a : Action) (ha : a.isPrompt = true) : Next R srv (srv.act a).2
  | looped {l : EventLoop} (h : R srv.loop l) : Next R srv { srv with loop := l }
  /-- The report of a drain has been taken. -/
  | taken {k : Nat} {r : RenderRequest} (hr : srv.request? k = some r) :
      Next R srv (srv.putRequest { r with drain := none })
  /-- A scheduler that has ended is dropped once more. -/
  | dropped {k : Nat} {r : RenderRequest} (hr : srv.request? k = some r)
      (hc : r.isOpen = false) (hd : srv.loop.drainsOf k = []) :
      Next R srv { srv with loop := (srv.loop.discard k).2 }

/-- Anything may have happened in between. -/
def Reaches (R : EventLoop → EventLoop → Prop) (srv srv' : Server σ) : Prop :=
  ReflTransGen (Next R) srv srv'

theorem Reaches.refl {R : EventLoop → EventLoop → Prop} (srv : Server σ) : srv.Reaches R srv :=
  ReflTransGen.refl

theorem Reaches.trans {R : EventLoop → EventLoop → Prop} {a b c : Server σ}
    (h : a.Reaches R b) (h' : b.Reaches R c) : a.Reaches R c :=
  ReflTransGen.trans h h'

theorem Next.reaches {R : EventLoop → EventLoop → Prop} {a b : Server σ} (h : Next R a b) :
    a.Reaches R b :=
  .single h

theorem reaches_looped {R : EventLoop → EventLoop → Prop} (srv : Server σ) {l : EventLoop}
    (h : ReflTransGen R srv.loop l) : srv.Reaches R { srv with loop := l } := by
  induction h with
  | refl => exact .refl srv
  | tail _ hm ih => exact ReflTransGen.tail ih (.looped hm)

/-- Turns are sequences of steps. -/
theorem Reaches.steps {a b : Server σ} (h : a.Reaches EventLoop.Turned b) :
    a.Reaches EventLoop.Stepped b := by
  induction h with
  | refl => exact .refl a
  | tail _ hn ih =>
    refine ih.trans ?_
    cases hn with
    | acted action ha => exact Next.reaches (.acted action ha)
    | looped hl => exact reaches_looped _ (EventLoop.steps_of_turned hl)
    | taken hr => exact Next.reaches (.taken hr)
    | dropped hr hc hd => exact Next.reaches (.dropped hr hc hd)

/-- Only a request that is being drained is acted on. -/
theorem reaches_whileDrained (srv : Server σ) (k : Nat)
    (act : RenderRequest → Nat → Answer × Server σ)
    (h : ∀ r job, srv.request? k = some r → srv.Reaches EventLoop.Turned (act r job).2) :
    srv.Reaches EventLoop.Turned (srv.whileDrained k act).2 := by
  unfold whileDrained
  cases hr : srv.request? k with
  | none => exact .refl srv
  | some r =>
    cases hd : r.drain with
    | none =>
      simp only [hd]
      exact .refl srv
    | some job =>
      simp only [hd]
      exact h r job hr

theorem reaches_hold (srv : Server σ) (millis : Nat) :
    srv.Reaches EventLoop.Turned (srv.hold millis).2 :=
  reaches_looped srv (srv.loop.turns_holdTermination srv.config.host millis)

theorem reaches_join {srv : Server σ} {k : Nat} {r : RenderRequest} (job : Nat)
    (hr : srv.request? k = some r) : srv.Reaches EventLoop.Turned (srv.join r job).2 := by
  have hl := reaches_looped srv (srv.loop.turns_join job)
  exact hl.trans (Next.reaches (.taken hr))

/-- Whatever an action does is a sequence of turns and of things done at once. -/
theorem reaches_act (srv : Server σ) (a : Action) :
    srv.Reaches EventLoop.Turned (srv.act a).2 := by
  cases ha : a.isPrompt with
  | true => exact Next.reaches (.acted a ha)
  | false =>
    cases a with
    | begin => cases ha
    | shutdown millis => exact reaches_looped srv (srv.loop.turns_waitIdle millis)
    | sleep millis => exact reaches_looped srv (srv.loop.turns_sleep millis)
    | request k action =>
      cases action with
      | hold millis => exact reaches_whileDrained srv k _ (fun _ _ _ => reaches_hold srv millis)
      | join => exact reaches_whileDrained srv k _ (fun _ job hr => reaches_join job hr)
      | _ => cases ha

/-- Every run of actions is covered. -/
theorem reaches_run (srv : Server σ) (actions : List Action) :
    srv.Reaches EventLoop.Turned (srv.run actions).2 := by
  induction actions generalizing srv with
  | nil => exact .refl srv
  | cons a actions ih => exact (reaches_act srv a).trans (ih (srv.act a).2)

/-- No request has begun, and nothing is pending. -/
structure IsNew (srv : Server σ) : Prop where
  requests : srv.requests = []
  schedulers : srv.loop.schedulers = []
  jobs : srv.loop.jobs = []
  count : srv.loop.pending.count = 0
  journal : ∀ e ∈ srv.loop.journal, e.request? = none

/-- A server with canned responses and without requests. -/
def canned (config : RuntimeConfig) : Server Fetch.Catalog where
  config := config
  fetcher := Fetch.Catalog.fetcher
  fetches := {}

theorem isNew_canned (config : RuntimeConfig) : (canned config).IsNew :=
  ⟨rfl, rfl, rfl, rfl, fun _ he => nomatch he⟩

end Server
end EdgeRender
