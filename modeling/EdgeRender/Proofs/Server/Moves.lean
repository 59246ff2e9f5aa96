import EdgeRender.Proofs.Server.Draining
import EdgeRender.Proofs.Server.Requests

/-! # Whatever happens to a server

`effect_of_next` says what the effect is of anything that can happen to a server, and
`sound_of_reaches` that a server stays sound, whatever happens to it.
-/
namespace EdgeRender

open EdgeRender.Deferred EdgeRender.Fetch EdgeRender.Stream

namespace Server

variable {σ : Type} {srv srv' : Server σ} {k : Nat} {stage : Stage}
  {accepted : List Deferred.Task}

/-! ## What concerns no queue -/

/-- A request may be changed in anything but its number and whether it is open, while
lines and the like are written. -/
theorem quiet_putRequest {r : RenderRequest} (r' : RenderRequest) {events : List Event}
    (fetches : σ) (h : srv.Sound) (hr : srv.request? k = some r) (hnum : r'.number = r.number)
    (hopen : r'.isOpen = r.isOpen) (hn : ∀ e ∈ events, e.request? = none) :
    Quiet srv (({ srv with fetches }.record events).putRequest r') := by
  have hk := lt_of_request? hr
  have hnum' : r'.number = k := hnum.trans (h.number_of_request? hr)
  have hlen : (({ srv with fetches }.record events).putRequest r').requests.length
      = srv.requests.length := List.length_set
  refine ⟨hlen, rfl, ?_, rfl, ?_⟩
  · intro hfit job hjob
    rw [hlen]
    exact hfit job hjob
  · intro n
    refine ⟨rfl, ?_, .record (Journal.silent_of_nameless hn n)⟩
    intro q hq
    by_cases hnk : n = k
    · subst hnk
      obtain rfl : r = q := Option.some.inj (hr.symm.trans hq)
      refine ⟨r', ?_, hnum, hopen⟩
      exact request?_putRequest ({ srv with fetches }.record events) hk hnum'
    · refine ⟨q, ?_, rfl, rfl⟩
      exact (request?_putRequest_of_ne _ (fun e => hnk (e.trans hnum'))).trans hq

theorem quiet_record {events : List Event} (hn : ∀ e ∈ events, e.request? = none) :
    Quiet srv (srv.record events) :=
  ⟨rfl, rfl, fun hfit => hfit, rfl, fun n =>
    ⟨rfl, fun q hq => ⟨q, hq, rfl, rfl⟩, .record (Journal.silent_of_nameless hn n)⟩⟩

theorem Quiet.refl (srv : Server σ) : Quiet srv srv :=
  ⟨rfl, rfl, fun hfit => hfit, rfl, fun n =>
    ⟨rfl, fun q hq => ⟨q, hq, rfl, rfl⟩, .refl n srv.loop⟩⟩

theorem nameless_prepare (c : Client) (input : Input) :
    ∀ e ∈ (c.prepare input).2.1, e.request? = none := by
  unfold Client.prepare
  split
  · exact fun e he => nomatch he
  · dsimp only
    split
    · exact fun e he => nomatch he
    · exact nameless_lines _

theorem nameless_fetch (c : Client) (f : Fetcher σ) (input : Input) (s : σ) :
    ∀ e ∈ (c.fetch f input s).2.1, e.request? = none := by
  have hp := nameless_prepare c input
  unfold Client.fetch
  split
  · next hc =>
    rw [hc] at hp
    exact hp
  · next hc =>
    rw [hc] at hp
    intro e he
    rcases List.mem_append.mp he with he | he
    · exact hp e he
    · rw [List.mem_singleton.mp he]
      rfl

theorem quiet_prepare (h : srv.Sound) {r : RenderRequest} (hr : srv.request? k = some r)
    (input : Input) : Quiet srv (srv.prepare r input).2 := by
  have hn := nameless_prepare r.client input
  unfold prepare
  rcases hp : r.client.prepare input with ⟨answer, events, client⟩
  rw [hp] at hn
  exact quiet_putRequest { r with client } srv.fetches h hr rfl rfl hn

theorem quiet_fetch (h : srv.Sound) {r : RenderRequest} (hr : srv.request? k = some r)
    (input : Input) : Quiet srv (srv.fetch r input).2 := by
  have hn := nameless_fetch r.client srv.fetcher input srv.fetches
  unfold fetch
  rcases hp : r.client.fetch srv.fetcher input srv.fetches with ⟨answer, events, client, fetches⟩
  rw [hp] at hn
  exact quiet_putRequest { r with client } fetches h hr rfl rfl hn

theorem quiet_fetchJson (h : srv.Sound) {r : RenderRequest} (hr : srv.request? k = some r)
    (input : Input) : Quiet srv (srv.fetchJson r input).2 := by
  have hn := nameless_fetch r.client srv.fetcher input srv.fetches
  unfold fetchJson Client.fetchJson Client.fetchAs
  rcases hp : r.client.fetch srv.fetcher input srv.fetches with ⟨answer, events, client, fetches⟩
  rw [hp] at hn
  exact quiet_putRequest { r with client } fetches h hr rfl rfl hn

theorem quiet_silently {r : RenderRequest} (r' : RenderRequest) (h : srv.Sound)
    (hr : srv.request? k = some r) (hnum : r'.number = r.number) (hopen : r'.isOpen = r.isOpen) :
    Quiet srv (srv.putRequest r') := by
  have hnone : ∀ e ∈ ([] : List Event), e.request? = none := fun e he => nomatch he
  have hq := quiet_putRequest r' srv.fetches h hr hnum hopen hnone
  rw [record_nil] at hq
  exact hq

/-- What holds of a server and of it after an action holds whether or not the request is
open. -/
theorem holds_whileOpen {P : Server σ → Prop} {act : RenderRequest → Answer × Server σ}
    (hsrv : P srv) (h : ∀ r, srv.open? k = some r → P (act r).2) : P (srv.whileOpen k act).2 := by
  unfold whileOpen
  cases hr : srv.open? k with
  | none => exact hsrv
  | some r => exact h r hr

theorem holds_onSink {P : Server σ → Prop} {act : RenderRequest → Answer × Server σ}
    (hsrv : P srv) (h : ∀ r, srv.request? k = some r → P (act r).2) : P (srv.onSink k act).2 := by
  unfold onSink
  cases hr : srv.request? k with
  | none => exact hsrv
  | some r => exact h r hr

/-- What an action answers does not matter. -/
theorem holds_map {P : Server σ → Prop} {α : Type} (p : α × Server σ) (answer : α → Answer)
    (h : P p.2) : P (p.map answer id).2 :=
  h

theorem effect_complete (h : srv.Sound) {r : RenderRequest} (hr : srv.open? k = some r) :
    Effect srv (srv.complete r).2 := by
  obtain ⟨answer, sink, hf⟩ : ∃ answer sink, r.sink.finish = (answer, sink) := ⟨_, _, rfl⟩
  cases answer with
  | error fault => exact (closes_complete h hr hf).effect h
  | ok receipt => exact effect_complete_ok h hr hf

theorem effect_actOn (h : srv.Sound) (k : Nat) (action : RequestAction)
    (ha : (Action.request k action).isPrompt = true) : Effect srv (srv.actOn k action).2 := by
  have hopen : ∀ act : RenderRequest → Answer × Server σ,
      (∀ r, srv.open? k = some r → Effect srv (act r).2) → Effect srv (srv.whileOpen k act).2 :=
    fun _ => holds_whileOpen (.quiet (.refl srv))
  have hsink : ∀ act : RenderRequest → Answer × Server σ,
      (∀ r, srv.request? k = some r → Effect srv (act r).2) → Effect srv (srv.onSink k act).2 :=
    fun _ => holds_onSink (.quiet (.refl srv))
  have hrequest : ∀ r, srv.open? k = some r → srv.request? k = some r :=
    fun _ => request?_of_open?
  cases action with
  | after task => exact hopen _ fun r hr => effect_register h (lt_of_open? hr) task
  | register task => exact hsink _ fun r hr => effect_register h (lt_of_request? hr) task
  | prepare input =>
    exact hopen _ fun r hr => holds_map _ _ (.quiet (quiet_prepare h (hrequest r hr) input))
  | fetch input =>
    exact hopen _ fun r hr => holds_map _ _ (.quiet (quiet_fetch h (hrequest r hr) input))
  | fetchJson input =>
    exact hopen _ fun r hr => holds_map _ _ (.quiet (quiet_fetchJson h (hrequest r hr) input))
  | log level message fields =>
    exact hopen _ fun r hr => .quiet (quiet_record (nameless_lines _))
  | send chunk =>
    exact hsink _ fun r hr =>
      holds_map (srv.send r chunk) _ (.quiet (quiet_silently _ h hr rfl rfl))
  | finishSink =>
    exact hsink _ fun r hr =>
      holds_map (srv.finishSink r) _ (.quiet (quiet_silently _ h hr rfl rfl))
  | dropReceiver => exact hsink _ fun r hr => .quiet (quiet_silently _ h hr rfl rfl)
  | complete => exact hopen _ fun r hr => holds_map _ _ (effect_complete h hr)
  | abort => exact hopen _ fun r hr => holds_map _ _ ((closes_abort h hr).effect h)
  | drop => exact hopen _ fun r hr => (closes_drop h hr).effect h
  | hold | join => cases ha

theorem effect_act (h : srv.Sound) (a : Action) (ha : a.isPrompt = true) :
    Effect srv (srv.act a).2 := by
  cases a with
  | begin context channel => exact effect_begin h context channel
  | request k action => exact effect_actOn h k action ha
  | shutdown | sleep => cases ha

/-! ## Everything that happens -/

/-- A job of a server that is not a drain is over, and stays so. -/
theorem runJob_of_fits (h : srv.JobsFit) {j : Nat}
    (hj : ∀ d, srv.loop.jobs[j]? ≠ some (.drain d)) : (srv.loop.runJob j).2 = srv.loop := by
  unfold EventLoop.runJob
  cases hi : srv.loop.jobs[j]? with
  | none => rfl
  | some job =>
    rcases h job (List.mem_of_getElem? hi) with ⟨d, rfl, -⟩ | ⟨ending, rfl⟩
    · exact absurd hi (hj d)
    · rfl

theorem effect_looped (h : srv.Sound) {l : EventLoop} (hl : EventLoop.Stepped srv.loop l) :
    Effect srv { srv with loop := l } := by
  cases hl with
  | stepped now room watched hj hs => exact effect_stepped h now room watched hj hs
  | cancelled hj => exact effect_cancelled h hj
  | @orphaned j d hj hs =>
    obtain ⟨s, hsome⟩ := h.scheduler (h.request_lt hj)
    rw [hs] at hsome
    cases hsome
  | timed hj =>
    rw [runJob_of_fits h.jobs hj]
    exact .quiet (.refl srv)
  | arranged now line credit elapsedMicros =>
    exact .quiet ⟨rfl, rfl, fun hfit => hfit, rfl, fun n =>
      ⟨rfl, fun q hq => ⟨q, hq, rfl, rfl⟩, rfl, rfl, [], (List.append_nil _).symm,
        fun _ he => nomatch he⟩⟩
  | alerted a => exact .quiet (quiet_record (by simp [Event.request?]))

/-- Whatever happens to a server, its effect is one of those listed. -/
theorem effect_of_next (h : srv.Sound) (hn : Next EventLoop.Stepped srv srv') :
    Effect srv srv' := by
  cases hn with
  | acted a ha => exact effect_act h a ha
  | looped hl => exact effect_looped h hl
  | taken hr => exact .quiet (quiet_silently _ h hr rfl rfl)
  | dropped hr hc hd => exact effect_dropped h hr hc hd

/-- A server stays sound, whatever happens to it and in whatever order. -/
theorem sound_of_reaches (h : srv.Sound) (hr : srv.Reaches EventLoop.Stepped srv') :
    srv'.Sound := by
  induction hr with
  | refl => exact h
  | tail _ hn ih => exact (effect_of_next ih hn).sound ih

end Server
end EdgeRender
