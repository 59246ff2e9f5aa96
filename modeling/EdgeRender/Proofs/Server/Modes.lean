import EdgeRender.Proofs.Server.Muting

/-! # Development and production

Two new servers are set up alike but for the mode, and the same is done with both, action by
action or move by move. `inert_of_start` says that the mode makes no difference to anything
but the diagnostics.
-/
namespace EdgeRender

open EdgeRender.Deferred EdgeRender.Fetch EdgeRender.Log EdgeRender.Stream

/-- What is seen of a move, whatever became of a warning. -/
def Sight.plain (s : Sight) : Sight := { s with answer := s.answer.plain }

/-- Two moves are the same, but the clock that the log goes by may be read differently. -/
inductive Move.Matches : Move → Move → Prop
  | same (m : Move) : Matches m m
  | arrange (now : Nat) (line : List Nat) (credit t t' : Nat) :
      Matches (.arrange now line credit t) (.arrange now line credit t')

namespace Server

variable {σ : Type} {srv srv' : Server σ}

namespace Matches

/-! ## Runs -/

/-- Actions are answered in production as in development. -/
theorem run (h : srv.Matches srv') (actions : List Action) :
    (srv'.run actions).1.map Answer.plain = (srv.run actions).1.map Answer.plain ∧
      (srv.run actions).2.Matches (srv'.run actions).2 := by
  induction actions generalizing srv srv' with
  | nil => exact ⟨rfl, h⟩
  | cons a actions ih =>
    obtain ⟨hanswer, hserver⟩ := h.act a
    obtain ⟨hanswers, hlast⟩ := ih hserver
    refine ⟨?_, hlast⟩
    simp only [Server.run, List.map_cons, hanswer, hanswers]

/-! ## Moves -/

theorem dispatched_eq (h : srv.Matches srv') : srv'.dispatched = srv.dispatched := by
  obtain ⟨l, ⟨j, t, hj, rfl⟩, rfl⟩ := h
  exact hj.dispatches

theorem drainJob?_eq (h : srv.Matches srv') (k : Nat) :
    srv'.loop.drainJob? k = srv.loop.drainJob? k := by
  unfold EventLoop.drainJob?
  rw [h.loop.jobs_eq]

theorem whileDraining (h : srv.Matches srv') (k : Nat)
    {goOn goOn' : Nat → DrainJob → Scheduler → EventLoop}
    (hgo : ∀ j d s, (goOn j d s).Matches (goOn' j d s)) :
    SameAnswer (srv.whileDraining k goOn) (srv'.whileDraining k goOn') := by
  unfold Server.whileDraining
  rw [h.drainJob?_eq, h.loop.schedulers_eq]
  split
  · next j d s _ _ => exact ⟨rfl, h.looped (hgo j d s)⟩
  · exact ⟨rfl, h⟩

theorem report?_eq (h : srv.Matches srv') (r : RenderRequest) :
    srv'.report? r.muted = srv.report? r := by
  have hending : srv'.loop.ending? = srv.loop.ending? := by
    funext k
    unfold EventLoop.ending?
    rw [h.loop.jobs_eq]
  have hdrain : r.muted.drain = r.drain := rfl
  unfold report?
  rw [hending, hdrain]

theorem perform (h : srv.Matches srv') (k : Nat) (d : Deed) :
    SameAnswer (srv.perform k d) (srv'.perform k d) := by
  cases d with
  | act action => exact h.actOn k action
  | step now room watched =>
    exact h.whileDraining k fun j d s => h.loop.stepDrain j d s now room watched
  | cancel => exact h.whileDraining k fun j d _ => h.loop.cancelDrain j d
  | take =>
    refine h.onSink k fun r => ?_
    rw [h.report?_eq]
    exact ⟨rfl, h.putRequest { r with drain := none }⟩
  | drop =>
    refine h.onSink k fun r => ?_
    have hopen : r.muted.isOpen = r.isOpen := rfl
    rw [h.drainJob?_eq, hopen]
    split
    · exact ⟨rfl, h⟩
    · exact ⟨rfl, h.looped (h.loop.discard k).loop⟩

/-- What is seen is the same, up to what became of a warning. -/
theorem sight_plain (h : srv.Matches srv') {after after' : Server σ}
    (hafter : after.Matches after') {answer answer' : Answer} (ha : answer'.plain = answer.plain) :
    (srv'.sight answer' after').plain = (srv.sight answer after).plain := by
  simp only [sight, Sight.plain, h.dispatched_eq, hafter.dispatched_eq, ha]

/-- A move is seen in production as in development. -/
theorem move (h : srv.Matches srv') {m m' : Move} (hm : m.Matches m') :
    (srv'.move m').1.map (Prod.map id Sight.plain) = (srv.move m).1.map (Prod.map id Sight.plain) ∧
      (srv.move m).2.Matches (srv'.move m').2 := by
  cases hm with
  | arrange now line credit t t' =>
    obtain ⟨l, ⟨j, _, hj, rfl⟩, rfl⟩ := h
    exact ⟨rfl, _, ⟨j, t', hj, rfl⟩, rfl⟩
  | same =>
    cases m with
    | begin context channel =>
      obtain ⟨hnumber, hserver⟩ := h.begin context channel
      refine ⟨?_, hserver⟩
      simp only [Server.move, Option.map_some, Prod.map_apply, hnumber,
        h.sight_plain hserver (rfl : Answer.plain .done = _)]
    | deed k d =>
      obtain ⟨hanswer, hserver⟩ := h.perform k d
      refine ⟨?_, hserver⟩
      simp only [Server.move, Option.map_some, Prod.map_apply, h.sight_plain hserver hanswer]
    | arrange now line credit t =>
      obtain ⟨l, ⟨j, _, hj, rfl⟩, rfl⟩ := h
      exact ⟨rfl, _, ⟨j, t, hj, rfl⟩, rfl⟩
    | alert a => exact ⟨rfl, h.recordPlain (by simp [Event.isDiagnostic])⟩

theorem play (h : srv.Matches srv') {ms ms' : List Move} (hms : List.Forall₂ Move.Matches ms ms') :
    (srv'.play ms').1.map (Prod.map id Sight.plain) = (srv.play ms).1.map (Prod.map id Sight.plain) ∧
      (srv.play ms).2.Matches (srv'.play ms').2 := by
  induction hms generalizing srv srv' with
  | nil => exact ⟨rfl, h⟩
  | @cons m m' ms ms' hm _ ih =>
    obtain ⟨hsight, hserver⟩ := h.move hm
    obtain ⟨hsights, hlast⟩ := ih hserver
    refine ⟨?_, hlast⟩
    simp only [Server.play, List.map_append, hsights, ← Option.toList_map, hsight]

end Matches

/-! ## What the mode makes no difference to -/

def start (config : RuntimeConfig) (observed : Bool) (fetcher : Fetcher σ) (fetches : σ)
    (elapsedMicros : Nat) : Server σ :=
  { config, observed, fetcher, fetches, loop := { elapsedMicros } }

theorem matches_start (config : RuntimeConfig) (observed : Bool) (fetcher : Fetcher σ)
    (fetches : σ) (t t' : Nat) :
    (start config observed fetcher fetches t).Matches
      (start { config with mode := .production } observed fetcher fetches t') :=
  ⟨_, ⟨[], t', .nil, rfl⟩, rfl⟩

/-- What can be found in a server in production, when the same has been done in it as in one
of any mode. -/
structure Inert (srv srv' : Server σ) : Prop where
  fetches : srv'.fetches = srv.fetches
  /-- The requests differ in the warnings that they have been shown. -/
  requests : srv'.requests = srv.requests.map RenderRequest.muted
  /-- The tasks that are waiting, those under way, and the reports. -/
  schedulers : srv'.loop.schedulers = srv.loop.schedulers
  jobs : srv'.loop.jobs = srv.loop.jobs
  pending : srv'.loop.pending = srv.loop.pending
  /-- The lines of the diagnostics are missing, and the others are the same up to the time
  that they tell. -/
  lines : List.Forall₂ LineMatches (srv.loop.journal.lines.filter (!isDiagnostic ·))
    srv'.loop.journal.lines
  silent : ∀ e ∈ srv'.loop.journal, e.isDiagnostic = false
  /-- What else can be seen from outside is the same, in the same order: alerts, fetches handed
  over, phases of requests, tasks begun and notes. -/
  others : srv'.loop.journal.filter (·.line?.isNone) = srv.loop.journal.filter (·.line?.isNone)

theorem Matches.inert (h : srv.Matches srv') : Inert srv srv' := by
  obtain ⟨l, ⟨j, t, hj, rfl⟩, rfl⟩ := h
  exact ⟨rfl, rfl, rfl, rfl, rfl, hj.lines, hj.silent, hj.others⟩

/-- The mode is inert. Let two new servers be set up alike but for the mode, one of any mode and
one in production, and let the clock of the log be read differently in both. If the same
actions are done with both, they are answered alike up to what became of a warning; so are the
moves that requests make, down to the single steps of their drains and in any order. In
production no line of a diagnostic is written, and everything else is written as in the other
mode, up to the time that a line tells. -/
theorem inert_of_start (config : RuntimeConfig) (observed : Bool) (fetcher : Fetcher σ)
    (fetches : σ) (t t' : Nat) :
    let srv := start config observed fetcher fetches t
    let srv' := start { config with mode := .production } observed fetcher fetches t'
    (∀ actions, (srv'.run actions).1.map Answer.plain = (srv.run actions).1.map Answer.plain ∧
      Inert (srv.run actions).2 (srv'.run actions).2) ∧
    (∀ ms ms', List.Forall₂ Move.Matches ms ms' →
      (srv'.play ms').1.map (Prod.map id Sight.plain)
          = (srv.play ms).1.map (Prod.map id Sight.plain) ∧
        Inert (srv.play ms).2 (srv'.play ms').2) := by
  intro srv srv'
  have h : srv.Matches srv' := matches_start config observed fetcher fetches t t'
  refine ⟨fun actions => ?_, fun ms ms' hms => ?_⟩
  · obtain ⟨hanswers, hlast⟩ := h.run actions
    exact ⟨hanswers, hlast.inert⟩
  · obtain ⟨hsights, hlast⟩ := h.play hms
    exact ⟨hsights, hlast.inert⟩

/-- A request makes a fetch with a conflict ready, and is aborted. -/
example :
    let context : RequestContext := { requestId := ⟨"r"⟩, method := .get, path := "/" }
    let input : Input := .plain "https://a.test/" { cache := .forceCache, revalidate := some 0 }
    let actions : List Action :=
      [.begin context {}, .request 0 (.prepare input), .request 0 .abort]
    let lines := fun mode =>
      ((start { mode, logFormat := .human } true Catalog.fetcher {} 0).run actions).2.loop.journal.lines
    lines .development = [" │ GET https://a.test/",
        " │ │ ⚠ Specified \"cache: force-cache\" and \"revalidate: 0\", only one should be specified.",
        "[WARN] render aborted | discarded_tasks=0"] ∧
      lines .production = ["[WARN] render aborted | discarded_tasks=0"] := by
  decide +kernel

end Server
end EdgeRender
