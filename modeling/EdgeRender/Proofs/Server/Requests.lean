import EdgeRender.Proofs.Server.Effect

/-! # What happens to a request

A request begins; it is completed, and its tasks may run; or it is closed in another way,
and its tasks are dropped.
-/
namespace EdgeRender

open EdgeRender.Deferred EdgeRender.Fetch EdgeRender.Stream EdgeRender.Log

namespace Server

variable {σ : Type} {srv srv' : Server σ} {k : Nat} {stage : Stage}
  {accepted : List Deferred.Task}

/-- What is written when a phase is reported to the observer, if there is one. -/
def told (observed : Bool) (k : Nat) (phase : Phase) : List Event :=
  if observed then [.phase k phase] else []

theorem told_silent {observed : Bool} {n : Nat} {phase : Phase} (hn : n ≠ k) :
    Journal.Silent n (told observed k phase) := by
  intro e he hreq
  cases observed with
  | false => cases he
  | true =>
    rw [List.mem_singleton.mp he] at hreq
    exact hn (Option.some.inj hreq).symm

theorem phasesOf_told (observed : Bool) (k : Nat) (phase : Phase) :
    Journal.phasesOf k (told observed k phase) = if observed then [phase] else [] := by
  cases observed with
  | false => rfl
  | true => simp [told, Journal.phasesOf, Event.phaseOf?]

theorem startedOf_told (observed : Bool) (k n : Nat) (phase : Phase) :
    Journal.startedOf n (told observed k phase) = [] := by
  cases observed <;> rfl

theorem record_nil (srv : Server σ) : srv.record [] = srv := by
  unfold record
  rw [EventLoop.record_nil]

theorem notify_eq (srv : Server σ) (k : Nat) (phase : Phase) :
    srv.notify k phase = srv.record (told srv.observed k phase) := by
  unfold notify told
  split
  · rfl
  · exact srv.record_nil.symm

theorem record_record (srv : Server σ) (a b : List Event) :
    (srv.record a).record b = srv.record (a ++ b) := by
  unfold record EventLoop.record
  rw [List.append_assoc]

theorem log_eq (srv : Server σ) (r : RenderRequest) (level : Level) (message : String)
    (fields : List Field) : ∃ lines : List String,
    srv.log r level message fields = srv.record (lines.map .line) :=
  ⟨_, rfl⟩

theorem nameless_lines (lines : List String) :
    ∀ e ∈ lines.map Event.line, e.request? = none := by
  intro e he
  obtain ⟨text, -, rfl⟩ := List.mem_map.mp he
  rfl

theorem silent_lines (lines : List String) (n : Nat) : Journal.Silent n (lines.map .line) :=
  Journal.silent_of_nameless (nameless_lines lines) n

theorem request?_putRequest (srv : Server σ) {r : RenderRequest} (hk : k < srv.requests.length)
    (hr : r.number = k) : (srv.putRequest r).request? k = some r := by
  unfold putRequest request?
  rw [hr]
  exact List.getElem?_set_self hk

theorem request?_putRequest_of_ne (srv : Server σ) {n : Nat} {r : RenderRequest}
    (hn : n ≠ r.number) :
    (srv.putRequest r).request? n = srv.request? n :=
  List.getElem?_set_ne (Ne.symm hn)

/-- An open request is waiting. -/
theorem Stands.waiting {r : RenderRequest} (h : srv.Stands k stage accepted)
    (hr : srv.open? k = some r) : stage = .waiting ∧ r.number = k := by
  obtain ⟨hr, ho⟩ := Option.filter_eq_some_iff.mp hr
  obtain ⟨r', hr', hnum, hopen⟩ := h.request
  obtain rfl : r = r' := Option.some.inj (hr.symm.trans hr')
  refine ⟨?_, hnum⟩
  rw [ho] at hopen
  cases stage with
  | waiting => rfl
  | _ => cases hopen

theorem request?_of_open? {r : RenderRequest} (hr : srv.open? k = some r) :
    srv.request? k = some r :=
  (Option.filter_eq_some_iff.mp hr).1

theorem lt_of_open? {r : RenderRequest} (hr : srv.open? k = some r) :
    k < srv.requests.length :=
  lt_of_request? (request?_of_open? hr)

/-- What is written when a request is closed without its tasks being run. -/
structure Closing (k : Nat) (events : List Event) : Prop where
  silent : ∀ n, n ≠ k → Journal.Silent n events
  phases : Journal.phasesOf k events = [] ∨ Journal.phasesOf k events = [.aborted]
  started : Journal.startedOf k events = []

theorem closing_nil (k : Nat) : Closing k [] :=
  ⟨fun _ _ _ he => (nomatch he), .inl rfl, rfl⟩

theorem closing_told (lines : List String) (observed : Bool) (k : Nat) :
    Closing k (lines.map .line ++ told observed k .aborted) := by
  have hlines := silent_lines lines
  refine ⟨?_, ?_, ?_⟩
  · intro n hn e he
    rcases List.mem_append.mp he with he | he
    · exact hlines n e he
    · exact told_silent hn e he
  · rw [Journal.phasesOf_append, Journal.phasesOf_of_silent (hlines k), List.nil_append,
      phasesOf_told]
    cases observed with
    | false => exact .inl rfl
    | true => exact .inr rfl
  · rw [Journal.startedOf_append, Journal.startedOf_of_silent (hlines k), startedOf_told]
    rfl

/-- An open request is closed without its tasks being run. -/
structure Closes (k : Nat) (srv srv' : Server σ) : Prop where
  isOpen : ∃ r, srv.open? k = some r
  closed : ∃ r events, r.number = k ∧ Closing k events ∧ srv' = (srv.close r).2.record events

/-- Its tasks are discarded. -/
theorem Closes.stands (hc : Closes k srv srv') (h : srv.Sound)
    (hst : srv.Stands k .waiting accepted) : srv'.Stands k .discarded accepted := by
  obtain ⟨r₀, hr₀⟩ := hc.isOpen
  obtain ⟨r, events, hr, hev, rfl⟩ := hc.closed
  have hk := lt_of_open? hr₀
  obtain ⟨s, hsch⟩ := h.scheduler hk
  have hbench : ((srv.close r).2.record events).loop.bench k
      = (srv.loop.bench k).discard.2.record events := by
    have hput := EventLoop.bench_putBench (srv.loop.bench k).discard.2 hsch
    show Bench.record ((srv.loop.discard r.number).2.bench k) events = _
    rw [hr]
    exact congrArg (Bench.record · events) hput
  have hj : ((srv.close r).2.record events).loop.journal = srv.loop.journal ++ events := rfl
  have hclosed : Session.Sound k ⟨(srv.loop.bench k).discard.2, .discarded, accepted⟩ :=
    hst.sound.discard rfl rfl rfl rfl (fun _ hq => nomatch hq)
  refine hst.advance rfl ⟨{ r with isOpen := false }, ?_, hr, rfl⟩ ?_ hst.drains hst.hook hj ?_
    (.inr hev.started)
  · exact request?_putRequest { srv with loop := (srv.loop.discard r.number).2 } hk hr
  · rw [hbench]
    exact hclosed.beside rfl rfl hev.started rfl rfl (fun _ => id) rfl
  · intro _ ps hps
    obtain rfl : ps = [.start] := hps
    rcases hev.phases with hp | hp
    · rw [hp]
      exact .inl rfl
    · rw [hp]
      exact .inr rfl

theorem Closes.within (hc : Closes k srv srv') : Within k srv srv' := by
  obtain ⟨r, events, hr, hev, rfl⟩ := hc.closed
  have hlen : ((srv.close r).2.record events).requests.length = srv.requests.length :=
    List.length_set
  refine ⟨hlen, List.length_modify _ _ _, ?_, ?_⟩
  · intro hfit job hjob
    rw [hlen]
    exact hfit job hjob
  · intro n hn
    have hne : n ≠ r.number := fun e => hn (e.trans hr)
    refine ⟨rfl, ?_, ?_⟩
    · intro q hq
      refine ⟨q, ?_, rfl, rfl⟩
      exact (request?_putRequest_of_ne { srv with loop := (srv.loop.discard r.number).2 }
        (r := { r with isOpen := false }) hne).trans hq
    · have hput : EventLoop.Alike n srv.loop (srv.loop.discard r.number).2 :=
        .putBench hne (List.append_nil _).symm (fun _ he => nomatch he)
      exact hput.trans (.record (hev.silent n hn))

theorem Closes.effect (hc : Closes k srv srv') (h : srv.Sound) : Effect srv srv' := by
  obtain ⟨r₀, hr₀⟩ := hc.isOpen
  have hk := lt_of_open? hr₀
  refine .moves k hk hc.within ?_
  intro stage accepted hst
  obtain ⟨rfl, -⟩ := hst.waiting hr₀
  obtain ⟨s, hsch⟩ := h.scheduler hk
  have hnext := hc.stands h hst
  have hbench := EventLoop.bench_putBench (srv.loop.bench k).discard.2 hsch
  refine ⟨_, _, hnext, .closes, ?_⟩
  obtain ⟨r, events, hr, hev, rfl⟩ := hc.closed
  refine balance_of_after (srv.loop.termsOf k s none) .discard h hk hst rfl rfl hnext ?_ ?_
  · show (srv.loop.discard r.number).2.queue k = _
    rw [hr]
    exact congrArg Bench.queue hbench
  · show (srv.loop.discard r.number).2.pending = _
    rw [hr]
    rfl

theorem Sound.number_of_request? (h : srv.Sound) {r : RenderRequest}
    (hr : srv.request? k = some r) : r.number = k := by
  obtain ⟨stage, accepted, hst⟩ := h.stands k (lt_of_request? hr)
  obtain ⟨q, hq, hnum, -⟩ := hst.request
  obtain rfl : r = q := Option.some.inj (hr.symm.trans hq)
  exact hnum

theorem Sound.number_of_open? (h : srv.Sound) {r : RenderRequest} (hr : srv.open? k = some r) :
    r.number = k :=
  h.number_of_request? (request?_of_open? hr)

theorem closes_drop (h : srv.Sound) {r : RenderRequest} (hr : srv.open? k = some r) :
    Closes k srv (srv.close r).2 :=
  ⟨⟨r, hr⟩, r, [], h.number_of_open? hr, closing_nil k, (srv.close r).2.record_nil.symm⟩

theorem closes_abort (h : srv.Sound) {r : RenderRequest} (hr : srv.open? k = some r) :
    Closes k srv (srv.abort r).2 := by
  have hnum := h.number_of_open? hr
  obtain ⟨lines, hl⟩ := (srv.close r).2.log_eq r .warn "render aborted"
    [.number "discarded_tasks" (.ofNat (srv.close r).1)]
  refine ⟨⟨r, hr⟩, r, _, hnum, closing_told lines srv.observed k, ?_⟩
  unfold abort
  dsimp only
  rw [notify_eq, hl, record_record, hnum]
  rfl

/-- A request whose response cannot be finished is closed. -/
theorem closes_complete (h : srv.Sound) {r : RenderRequest} {fault : RenderFault}
    {sink : ResponseSink} (hr : srv.open? k = some r) (hf : r.sink.finish = (.error fault, sink)) :
    Closes k srv (srv.complete r).2 := by
  have hnum := h.number_of_open? hr
  obtain ⟨lines, hl⟩ := (srv.close { r with sink }).2.log_eq { r with sink } .error
    "response flush failed" [.text "error" fault.message,
      .number "discarded_tasks" (.ofNat (srv.close { r with sink }).1)]
  refine ⟨⟨r, hr⟩, { r with sink }, _, hnum, closing_told lines srv.observed k, ?_⟩
  unfold complete
  rw [hf]
  dsimp only
  rw [notify_eq, hl, record_record, hnum]
  rfl

/-- A request whose response has been finished: its tasks are drained by a new job. -/
theorem complete_eq {r : RenderRequest} {receipt : Receipt} {sink : ResponseSink}
    (hf : r.sink.finish = (.ok receipt, sink)) : ∃ lines : List String,
    (srv.complete r).2 = Server.putRequest
      { srv with
        loop := ((srv.loop.record (lines.map .line ++ told srv.observed r.number .flushed)).startDrain
          r.number (if srv.observed then .observe else .nothing) "").2 }
      { r with sink, isOpen := false, drain := some srv.loop.jobs.length } := by
  obtain ⟨lines, hl⟩ := srv.log_eq r .info "response flushed"
    [.number "bytes" (.ofNat receipt.bytes),
      .number "deferred_tasks" (.ofNat (srv.loop.queued r.number)),
      .duration "elapsed_ms" srv.elapsed]
  refine ⟨lines, ?_⟩
  unfold complete
  rw [hf]
  dsimp only
  rw [notify_eq, hl, record_record]
  rfl

/-- A request is completed, and a job for its tasks is started. -/
theorem Stands.completed {r : RenderRequest} {events : List Event} {hook : Hook}
    (h : srv.Stands k .waiting accepted) (hk : k < srv.requests.length) (hnum : r.number = k)
    (ho : r.isOpen = false) (hhook : hook = srv.hook)
    (hp : srv.observed = true → Journal.phasesOf k events = [.flushed])
    (hs : Journal.startedOf k events = []) :
    Stands (Server.putRequest
      { srv with loop := ((srv.loop.record events).startDrain k hook "").2 } r)
      k (.draining {}) accepted := by
  have hnil : srv.loop.drainsOf k = [] := List.map_eq_nil_iff.mp h.drains
  have hdrains : ((srv.loop.record events).startDrain k hook "").2.drainsOf k
      = [{ request := k, hook, due := srv.loop.now }] := by
    have hone := (srv.loop.record events).drainsOf_startDrain k hook ""
    have hold : (srv.loop.record events).drainsOf k = [] := hnil
    rw [hone, hold]
    rfl
  have hbegun : Session.Sound k ⟨srv.loop.bench k, .draining {}, accepted⟩ :=
    h.sound.beside rfl (List.append_nil _).symm rfl rfl rfl (fun _ hq => nomatch hq) rfl
  have hj : ((srv.loop.record events).startDrain k hook "").2.journal
      = srv.loop.journal ++ events := rfl
  refine h.advance rfl ⟨r, ?_, hnum, ho⟩ ?_ ?_ ?_ hj ?_ (.inr hs)
  · exact request?_putRequest
      { srv with loop := ((srv.loop.record events).startDrain k hook "").2 } hk hnum
  · exact hbegun.beside rfl rfl hs rfl rfl (fun _ => id) rfl
  · exact congrArg (List.map DrainJob.drain) hdrains
  · intro d hd
    have hd' : d ∈ [({ request := k, hook, due := srv.loop.now } : DrainJob)] := hdrains ▸ hd
    rw [List.mem_singleton.mp hd']
    exact hhook
  · intro hobs ps hps
    obtain rfl : ps = [.start] := hps
    rw [hp hobs]
    rfl

theorem within_complete (h : srv.Sound) {r : RenderRequest} {receipt : Receipt}
    {sink : ResponseSink} (hr : srv.open? k = some r)
    (hf : r.sink.finish = (.ok receipt, sink)) : Within k srv (srv.complete r).2 := by
  have hk := lt_of_open? hr
  have hnum := h.number_of_open? hr
  obtain ⟨lines, hc⟩ := srv.complete_eq hf
  have hlen : (srv.complete r).2.requests.length = srv.requests.length := by
    rw [hc]
    exact List.length_set
  refine ⟨hlen, by rw [hc]; rfl, ?_, ?_⟩
  · intro hfit job hjob
    rw [hlen]
    rw [hc, hnum] at hjob
    rcases List.mem_append.mp hjob with hold | hnew
    · exact hfit job hold
    · exact .inl ⟨_, List.mem_singleton.mp hnew, hk⟩
  · intro n hn
    rw [hc, hnum]
    refine ⟨rfl, ?_, ?_⟩
    · intro q hq
      refine ⟨q, ?_, rfl, rfl⟩
      exact (request?_putRequest_of_ne _ hn).trans hq
    · have hsilent : Journal.Silent n (lines.map .line ++ told srv.observed k .flushed) := by
        intro e he
        rcases List.mem_append.mp he with he | he
        · exact silent_lines lines n e he
        · exact told_silent hn e he
      exact (EventLoop.Alike.record hsilent).trans (.start (Job.drainOf?_of_ne (Ne.symm hn)))

theorem effect_complete_ok (h : srv.Sound) {r : RenderRequest} {receipt : Receipt}
    {sink : ResponseSink} (hr : srv.open? k = some r)
    (hf : r.sink.finish = (.ok receipt, sink)) : Effect srv (srv.complete r).2 := by
  have hk := lt_of_open? hr
  have hnum := h.number_of_open? hr
  obtain ⟨lines, hc⟩ := srv.complete_eq hf
  have hlines := silent_lines lines
  refine .moves k hk (within_complete h hr hf) ?_
  intro stage accepted hst
  obtain ⟨rfl, -⟩ := hst.waiting hr
  have hnext : (srv.complete r).2.Stands k (.draining {}) accepted := by
    rw [hc, hnum]
    refine hst.completed hk rfl rfl rfl ?_ ?_
    · intro ho
      rw [Journal.phasesOf_append, Journal.phasesOf_of_silent (hlines k), phasesOf_told, ho]
      rfl
    · rw [Journal.startedOf_append, Journal.startedOf_of_silent (hlines k), startedOf_told]
      rfl
  refine ⟨_, _, hnext, .completes hr hf rfl, ?_⟩
  refine balance_of_after (srv.loop.termsOf k ⟨{}, r.logger, .ofMillis 0⟩ none) .begin h hk hst
    rfl rfl hnext ?_ ?_
  · rw [hc]
    rfl
  · rw [hc]
    rfl

/-- A new request stands at the beginning. -/
theorem begin_eq (srv : Server σ) (context : RequestContext) (channel : Channel) :
    ∃ (s : Scheduler) (r : RenderRequest), s.queue = {} ∧
      r.number = srv.loop.schedulers.length ∧ r.isOpen = true ∧ r.drain = none ∧
      (srv.begin context channel).2 = { srv with
        loop := ({ srv.loop with schedulers := srv.loop.schedulers ++ [s] }).record
          (told srv.observed srv.loop.schedulers.length .start)
        requests := srv.requests ++ [r] } := by
  let logger : Logger :=
    { requestId := context.requestId, route := some context.path,
      format := srv.config.logFormat }
  let client : Client :=
    { requestId := context.requestId, renderMode := context.renderMode,
      diagnostics := { mode := srv.config.mode } }
  refine ⟨{ logger, limit := srv.config.taskTimeout },
    { number := srv.loop.schedulers.length, context, client, logger, sink := { channel } },
    rfl, rfl, rfl, rfl, ?_⟩
  unfold begin
  dsimp only
  rw [notify_eq]
  rfl

theorem observed_begin (srv : Server σ) (context : RequestContext) (channel : Channel) :
    (srv.begin context channel).2.observed = srv.observed := by
  obtain ⟨s, r, -, -, -, -, he⟩ := srv.begin_eq context channel
  rw [he]

theorem journal_begin (h : srv.Sound) (context : RequestContext) (channel : Channel) :
    (srv.begin context channel).2.loop.journal
      = srv.loop.journal ++ told srv.observed srv.requests.length .start := by
  obtain ⟨s, r, -, -, -, -, he⟩ := srv.begin_eq context channel
  rw [he, h.schedulers]
  rfl

theorem queue_begin (h : srv.Sound) (context : RequestContext) (channel : Channel) (n : Nat) :
    (srv.begin context channel).2.loop.queue n
      = if n = srv.requests.length then {} else srv.loop.queue n := by
  obtain ⟨s, r, hs, -, -, -, he⟩ := srv.begin_eq context channel
  have hgrown : (srv.begin context channel).2.loop.schedulers = srv.loop.schedulers ++ [s] := by
    rw [he]
    rfl
  unfold EventLoop.queue
  rw [hgrown, ← h.schedulers]
  split_ifs with hn
  · subst hn
    rw [List.getElem?_concat_length]
    exact hs
  · by_cases hlt : n < srv.loop.schedulers.length
    · rw [List.getElem?_append_left hlt]
    · have hnone : (srv.loop.schedulers ++ [s])[n]? = none := by
        apply List.getElem?_eq_none
        rw [List.length_append, List.length_singleton]
        omega
      have hold : srv.loop.schedulers[n]? = none := List.getElem?_eq_none (by omega)
      rw [hnone, hold]

theorem request?_begin (h : srv.Sound) (context : RequestContext) (channel : Channel) :
    ∃ r, (srv.begin context channel).2.request? srv.requests.length = some r ∧
      r.number = srv.requests.length ∧ r.isOpen = true := by
  obtain ⟨s, r, -, hnum, hopen, -, he⟩ := srv.begin_eq context channel
  refine ⟨r, ?_, hnum.trans h.schedulers, hopen⟩
  rw [he]
  exact List.getElem?_concat_length

theorem alike_begin (h : srv.Sound) (context : RequestContext) (channel : Channel)
    (hk : k < srv.requests.length) : Alike k srv (srv.begin context channel).2 := by
  have hne : k ≠ srv.requests.length := Nat.ne_of_lt hk
  have hqueue := queue_begin h context channel k
  have hjournal := journal_begin h context channel
  obtain ⟨s, r, -, -, -, -, he⟩ := srv.begin_eq context channel
  rw [if_neg hne] at hqueue
  have hobserved := observed_begin srv context channel
  have hdrains : (srv.begin context channel).2.loop.drainsOf k = srv.loop.drainsOf k := by
    rw [he]
    rfl
  refine ⟨hobserved, ?_, hqueue, hdrains, _, hjournal, told_silent hne⟩
  intro q hq
  refine ⟨q, ?_, rfl, rfl⟩
  rw [he]
  exact (List.getElem?_append_left hk).trans hq

theorem drainsOf_of_le (h : srv.JobsFit) {n : Nat} (hn : srv.requests.length ≤ n) :
    srv.loop.drainsOf n = [] := by
  apply List.eq_nil_iff_forall_not_mem.mpr
  intro d hd
  obtain ⟨hmem, hreq⟩ := EventLoop.mem_drainsOf.mp hd
  rcases h _ hmem with ⟨e, he, hlt⟩ | ⟨ending, he⟩
  · obtain rfl := Job.drain.inj he
    omega
  · cases he

theorem stands_begin (h : srv.Sound) (context : RequestContext) (channel : Channel) :
    (srv.begin context channel).2.Stands srv.requests.length .waiting [] := by
  have hqueue := queue_begin h context channel srv.requests.length
  have hjournal := journal_begin h context channel
  have hrequest := request?_begin h context channel
  have hsilent := h.silent srv.requests.length (Nat.le_refl _)
  have hdrains : (srv.begin context channel).2.loop.drainsOf srv.requests.length = [] := by
    obtain ⟨s, r, -, -, -, -, he⟩ := srv.begin_eq context channel
    rw [he]
    exact drainsOf_of_le h.jobs (Nat.le_refl _)
  have hobserved := observed_begin srv context channel
  have hstarted : Journal.startedOf srv.requests.length
      (srv.begin context channel).2.loop.journal = [] := by
    rw [hjournal, Journal.startedOf_append, Journal.startedOf_of_silent hsilent, startedOf_told]
    rfl
  rw [if_pos rfl] at hqueue
  -- The number is new, so nothing in the loop or in the journal was about it.
  refine ⟨hrequest, ?_, ?_, ?_, ?_, ?_⟩
  · have hstart : Session.IsNew srv.requests.length
        ⟨(srv.begin context channel).2.loop.bench srv.requests.length, .waiting, []⟩ :=
      ⟨hqueue, rfl, rfl, hstarted⟩
    exact hstart.sound
  · rw [hdrains]
    rfl
  · intro d hd
    rw [hdrains] at hd
    cases hd
  · intro ho
    rw [hobserved] at ho
    rw [hjournal, Journal.phasesOf_append, Journal.phasesOf_of_silent hsilent, phasesOf_told, ho]
    rfl
  · intro _ before t after hsplit
    have hm : t ∈ Journal.startedOf srv.requests.length
        (srv.begin context channel).2.loop.journal := by
      rw [hsplit]
      exact Journal.mem_startedOf.mpr (by simp)
    rw [hstarted] at hm
    cases hm

/-- A new request has no share in the pending work. -/
theorem Stands.share_of_new (h : srv.Stands k .waiting []) : srv.loop.share k = 0 := by
  obtain ⟨-, hroll⟩ := h.sound.underWay rfl
  have hnone := List.map_eq_nil_iff.mp hroll
  rw [h.share]
  exact congrArg List.length hnone

theorem sound_begin (h : srv.Sound) (context : RequestContext) (channel : Channel) :
    (srv.begin context channel).2.Sound := by
  have hstands := stands_begin h context channel
  have halike := fun k hk => alike_begin (k := k) h context channel hk
  have hjournal := journal_begin h context channel
  obtain ⟨s, r, -, -, -, -, he⟩ := srv.begin_eq context channel
  have hlen : (srv.begin context channel).2.requests.length = srv.requests.length + 1 := by
    rw [he]
    exact List.length_append
  refine ⟨?_, ?_, ?_, ?_, ?_⟩
  · rw [hlen, ← h.schedulers, he]
    exact List.length_append
  · intro job hjob
    rw [he] at hjob
    rcases h.jobs job hjob with ⟨d, hd, hlt⟩ | hover
    · exact .inl ⟨d, hd, by omega⟩
    · exact .inr hover
  · intro k hk
    -- The other requests stand as before; the one that begins stands at its first stage.
    by_cases hlt : k < srv.requests.length
    · obtain ⟨stage, accepted, hst⟩ := h.stands k hlt
      exact ⟨stage, accepted, hst.alike (halike k hlt)⟩
    · obtain rfl : k = srv.requests.length := by omega
      exact ⟨_, _, hstands⟩
  · intro n hn e hev
    rw [hjournal] at hev
    rcases List.mem_append.mp hev with hev | hev
    · exact h.silent n (by omega) e hev
    · exact told_silent (by omega) e hev
  · have hcount : (srv.begin context channel).2.loop.pending = srv.loop.pending := by
      rw [he]
      rfl
    rw [hcount, hlen, Finset.sum_range_succ, hstands.share_of_new, h.balance]
    refine Finset.sum_congr rfl ?_
    intro k hk
    exact ((halike k (Finset.mem_range.mp hk)).loop.share).symm

theorem effect_begin (h : srv.Sound) (context : RequestContext) (channel : Channel) :
    Effect srv (srv.begin context channel).2 := by
  have hsound := sound_begin h context channel
  have hstands := stands_begin h context channel
  have halike := fun k hk => alike_begin (k := k) h context channel hk
  have hjournal := journal_begin h context channel
  obtain ⟨s, r, -, -, -, -, he⟩ := srv.begin_eq context channel
  have hobserved := observed_begin srv context channel
  refine .begins ⟨hobserved, ?_, hsound, halike, hstands, _, hjournal.symm⟩
  rw [he]
  exact List.length_append

end Server
end EdgeRender
