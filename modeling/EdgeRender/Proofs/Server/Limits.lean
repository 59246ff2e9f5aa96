import EdgeRender.Proofs.Server.Moves

/-! # Time limits of requests

A request takes the time limit of its tasks from the configuration when it begins. Nothing that
happens to a server changes the configuration or a limit that was taken, so in every state the
tasks of every request have the limit of the configuration (`limits_of_reaches`).
-/
namespace EdgeRender

open EdgeRender.Deferred EdgeRender.Fetch EdgeRender.Stream Relation

namespace Deferred.EventLoop

def limits (l : EventLoop) : List Duration := l.schedulers.map (·.limit)

@[simp] theorem limits_record (l : EventLoop) (events : List Event) :
    (l.record events).limits = l.limits := rfl

@[simp] theorem limits_putJob (l : EventLoop) (k : Nat) (job : Job) :
    (l.putJob k job).limits = l.limits := rfl

/-- Only the queue of a scheduler is ever changed. -/
@[simp] theorem limits_putBench (l : EventLoop) (request : Nat) (b : Bench) :
    (l.putBench request b).limits = l.limits := by
  apply List.ext_getElem?
  intro n
  simp only [limits, putBench, List.getElem?_map, List.getElem?_modify]
  cases l.schedulers[n]? with
  | none => rfl
  | some s => by_cases hn : request = n <;> simp [hn]

@[simp] theorem limits_settle (l : EventLoop) (k : Nat) (d : DrainJob) (turn : Turn) :
    (l.settle k d turn).2.limits = l.limits := by
  cases turn with
  | go | paused | waiting | givenUp => rfl
  | finished drain =>
    unfold settle conclude
    cases d.hook <;> rfl

theorem limits_of_stepped {l l' : EventLoop} (h : Stepped l l') : l'.limits = l.limits := by
  cases h with
  | stepped now room watched hj hs => simp [stepDrain]
  | cancelled hj => simp [cancelDrain]
  | orphaned | arranged | alerted => rfl
  | @timed k hj =>
    unfold runJob
    split
    · split <;> rfl
    · split <;> rfl
    · next d hd => exact absurd hd (hj d)
    · rfl
    · rfl

end Deferred.EventLoop

namespace Server

variable {σ : Type} {srv srv' srv'' : Server σ}

/-- The configuration and the limits that were taken are the same. -/
structure KeepsLimits (srv srv' : Server σ) : Prop where
  config : srv'.config = srv.config
  limits : srv'.loop.limits = srv.loop.limits

namespace KeepsLimits

theorem refl (srv : Server σ) : KeepsLimits srv srv := ⟨rfl, rfl⟩

theorem record (h : KeepsLimits srv srv') (events : List Event) :
    KeepsLimits srv (srv'.record events) := ⟨h.config, h.limits⟩

theorem putRequest (h : KeepsLimits srv srv') (r : RenderRequest) :
    KeepsLimits srv (srv'.putRequest r) := ⟨h.config, h.limits⟩

theorem notify (h : KeepsLimits srv srv') (k : Nat) (phase : Phase) :
    KeepsLimits srv (srv'.notify k phase) := by
  rw [notify_eq]
  exact h.record _

theorem putBench (srv : Server σ) (k : Nat) (b : Bench) :
    KeepsLimits srv { srv with loop := srv.loop.putBench k b } :=
  ⟨rfl, EventLoop.limits_putBench ..⟩

theorem close (srv : Server σ) (r : RenderRequest) : KeepsLimits srv (srv.close r).2 :=
  (putBench srv r.number _).putRequest _

theorem complete (srv : Server σ) (r : RenderRequest) : KeepsLimits srv (srv.complete r).2 := by
  obtain ⟨answer, sink, hf⟩ : ∃ answer sink, r.sink.finish = (answer, sink) := ⟨_, _, rfl⟩
  cases answer with
  | error fault =>
    unfold Server.complete
    rw [hf]
    exact ((close srv { r with sink }).record _).notify _ _
  | ok receipt =>
    obtain ⟨lines, hc⟩ := srv.complete_eq hf
    rw [hc]
    exact ⟨rfl, rfl⟩

end KeepsLimits

/-- What a client does leaves the configuration and the limits as they are. -/
theorem keepsLimits_fetching (srv : Server σ) (r : RenderRequest) (input : Input) :
    KeepsLimits srv (srv.prepare r input).2 ∧ KeepsLimits srv (srv.fetch r input).2 ∧
      KeepsLimits srv (srv.fetchJson r input).2 := by
  refine ⟨?_, ?_, ?_⟩
  · unfold prepare
    rcases r.client.prepare input with ⟨answer, events, client⟩
    exact ⟨rfl, rfl⟩
  · unfold fetch
    rcases r.client.fetch srv.fetcher input srv.fetches with ⟨answer, events, client, fetches⟩
    exact ⟨rfl, rfl⟩
  · unfold fetchJson
    rcases r.client.fetchJson srv.fetcher input srv.fetches with ⟨answer, events, client, fetches⟩
    exact ⟨rfl, rfl⟩

theorem keepsLimits_actOn (srv : Server σ) (k : Nat) (action : RequestAction)
    (ha : (Action.request k action).isPrompt = true) : KeepsLimits srv (srv.actOn k action).2 := by
  have hopen : ∀ act : RenderRequest → Answer × Server σ, (∀ r, KeepsLimits srv (act r).2) →
      KeepsLimits srv (srv.whileOpen k act).2 :=
    fun _ hact => holds_whileOpen (.refl srv) fun r _ => hact r
  have hsink : ∀ act : RenderRequest → Answer × Server σ, (∀ r, KeepsLimits srv (act r).2) →
      KeepsLimits srv (srv.onSink k act).2 :=
    fun _ hact => holds_onSink (.refl srv) fun r _ => hact r
  cases action with
  | after task => exact hopen _ fun _ => .putBench srv k _
  | register task => exact hsink _ fun _ => .putBench srv k _
  | prepare input => exact hopen _ fun r => holds_map _ _ (keepsLimits_fetching srv r input).1
  | fetch input => exact hopen _ fun r => holds_map _ _ (keepsLimits_fetching srv r input).2.1
  | fetchJson input => exact hopen _ fun r => holds_map _ _ (keepsLimits_fetching srv r input).2.2
  | log level message fields => exact hopen _ fun _ => (KeepsLimits.refl srv).record _
  | send chunk =>
    exact hsink _ fun r => holds_map (srv.send r chunk) _ ((KeepsLimits.refl srv).putRequest _)
  | finishSink =>
    exact hsink _ fun r => holds_map (srv.finishSink r) _ ((KeepsLimits.refl srv).putRequest _)
  | dropReceiver => exact hsink _ fun _ => (KeepsLimits.refl srv).putRequest _
  | complete => exact hopen _ fun r => .complete srv r
  | abort => exact hopen _ fun r => ((KeepsLimits.close srv r).record _).notify _ _
  | drop => exact hopen _ fun r => .close srv r
  | hold | join => cases ha

/-- A request that begins takes its limit from the configuration. -/
theorem limits_begin (srv : Server σ) (context : RequestContext) (channel : Channel) :
    (srv.begin context channel).2.config = srv.config ∧
      (srv.begin context channel).2.loop.limits
        = srv.loop.limits ++ [srv.config.taskTimeout] := by
  unfold begin
  dsimp only
  rw [notify_eq]
  exact ⟨rfl, List.map_append⟩

/-- The tasks of every request have the time limit of this configuration. -/
structure IsBounded (srv : Server σ) (c : RuntimeConfig) : Prop where
  config : srv.config = c
  limits : ∀ limit ∈ srv.loop.limits, limit = c.taskTimeout

variable {c : RuntimeConfig}

theorem IsBounded.keeps (hb : srv.IsBounded c) (h : KeepsLimits srv srv') :
    srv'.IsBounded c := by
  refine ⟨h.config.trans hb.config, ?_⟩
  rw [h.limits]
  exact hb.limits

/-- Whatever happens, the limits stay those of the configuration. -/
theorem IsBounded.next (hb : srv.IsBounded c) (hn : Next EventLoop.Stepped srv srv') :
    srv'.IsBounded c := by
  cases hn with
  | acted a ha =>
    cases a with
    | begin context channel =>
      obtain ⟨hconfig, hlimits⟩ := limits_begin srv context channel
      refine ⟨hconfig.trans hb.config, ?_⟩
      intro limit hmem
      have hmem' : limit ∈ srv.loop.limits ++ [srv.config.taskTimeout] := hlimits ▸ hmem
      rcases List.mem_append.mp hmem' with hold | hnew
      · exact hb.limits limit hold
      · rw [List.mem_singleton.mp hnew, hb.config]
    | request k action => exact hb.keeps (keepsLimits_actOn srv k action ha)
    | shutdown | sleep => cases ha
  | looped hl => exact hb.keeps ⟨rfl, EventLoop.limits_of_stepped hl⟩
  | taken hr => exact hb.keeps ((KeepsLimits.refl srv).putRequest _)
  | dropped hr hc hd => exact hb.keeps (.putBench srv _ _)

/-- In every state that a new server reaches, the tasks of every request have the limit of the
configuration. -/
theorem limits_of_reaches (hnew : srv.IsNew) (hr : srv.Reaches EventLoop.Stepped srv') :
    srv'.IsBounded srv.config := by
  induction hr with
  | refl =>
    refine ⟨rfl, ?_⟩
    intro limit hmem
    rw [EventLoop.limits, hnew.schedulers] at hmem
    cases hmem
  | tail _ hn ih => exact ih.next hn

end Server
end EdgeRender
