import EdgeRender.Proofs.Server.Projection

/-! # Requests with the same portrait

Two servers that have been set up alike, and a request in each, with the same portrait. A deed
done with both requests is answered alike, hands the same fetches over and leaves them with
the same portrait, whatever else there is in the two servers.
-/
namespace EdgeRender

open EdgeRender.Deferred EdgeRender.Fetch EdgeRender.Stream EdgeRender.Log

namespace Server

variable {σ : Type} {srv srv' : Server σ} {k n : Nat}
  {answer : Spec → Plan → Except FetchFault Response}

/-- What every server keeps that began without requests and whose fetcher is steady. -/
structure Kept (answer : Spec → Plan → Except FetchFault Response) (srv : Server σ) : Prop where
  sound : srv.Sound
  attended : srv.Attended
  steady : srv.fetcher.Steady answer srv.fetches

/-- The request `k` of one server and the request `n` of another have the same portrait. -/
structure Twins (answer : Spec → Plan → Except FetchFault Response) (k n : Nat)
    (srv srv' : Server σ) : Prop where
  left : Kept answer srv
  right : Kept answer srv'
  settings : srv'.settings = srv.settings
  portrait : srv'.portrait n = srv.portrait k

theorem Twins.fetcher (ht : Twins answer k n srv srv') : srv'.fetcher = srv.fetcher :=
  congrArg (·.2.2) ht.settings

theorem Twins.hook (ht : Twins answer k n srv srv') : srv'.hook = srv.hook :=
  congrArg (fun settings => if settings.2.1 then Hook.observe else .nothing) ht.settings

theorem Twins.steady (ht : Twins answer k n srv srv') :
    srv.fetcher.Steady answer srv'.fetches := by
  rw [← ht.fetcher]
  exact ht.right.steady

/-- The same has been done with a request of one server and with a request of another: it is
answered alike, the same fetches are handed over, and the portraits are the same. -/
structure Agrees (k n : Nat) (srv srv' : Server σ) (p q : Answer × Server σ) : Prop where
  answer : q.1 = p.1
  portrait : q.2.portrait n = p.2.portrait k
  handed : ∃ ds, p.2.dispatched = srv.dispatched ++ ds ∧ q.2.dispatched = srv'.dispatched ++ ds

theorem Agrees.sight_eq {p q : Answer × Server σ} (h : Agrees k n srv srv' p q) :
    srv'.sight q.1 q.2 = srv.sight p.1 p.2 := by
  obtain ⟨ds, hp, hq⟩ := h.handed
  unfold sight
  rw [h.answer, hp, hq, List.drop_left, List.drop_left]

/-- Nothing is done with either. -/
theorem Agrees.refl (h : srv'.portrait n = srv.portrait k) (answer : Answer) :
    Agrees k n srv srv' (answer, srv) (answer, srv') :=
  ⟨rfl, h, [], (List.append_nil _).symm, (List.append_nil _).symm⟩

/-- Two requests with the same portrait. -/
structure Pair (k n : Nat) (srv srv' : Server σ) (r r' : RenderRequest) : Prop where
  left : srv.request? k = some r
  right : srv'.request? n = some r'
  number : r.number = k
  number' : r'.number = n
  same : sketch srv'.loop r' = sketch srv.loop r

/-- The requests and the loops have changed in such a way that the portraits are the same. -/
theorem agrees_of_sketch (m m' : Server σ) {q q' : RenderRequest} (answer : Answer)
    (hq : m.request? k = some q) (hq' : m'.request? n = some q')
    (hs : sketch m'.loop q' = sketch m.loop q)
    (hd : ∃ ds, m.dispatched = srv.dispatched ++ ds ∧ m'.dispatched = srv'.dispatched ++ ds) :
    Agrees k n srv srv' (answer, m) (answer, m') := by
  refine ⟨rfl, ?_, hd⟩
  unfold portrait
  rw [hq, hq', Option.map_some, Option.map_some, hs]

theorem dispatched_record (srv : Server σ) (events : List Event) :
    (srv.record events).dispatched = srv.dispatched ++ Journal.dispatches events :=
  Journal.dispatches_append _ _

theorem dispatches_told (observed : Bool) (k : Nat) (phase : Phase) :
    Journal.dispatches (told observed k phase) = [] := by
  cases observed <;> rfl

theorem dispatched_log (srv : Server σ) (r : RenderRequest) (level : Level) (message : String)
    (fields : List Field) : (srv.log r level message fields).dispatched = srv.dispatched := by
  obtain ⟨lines, hl⟩ := srv.log_eq r level message fields
  rw [hl, dispatched_record, Journal.dispatches_lines, List.append_nil]

/-! ## Portraits of changed loops -/

theorem queue_of_sketch {l l' : EventLoop} {r r' : RenderRequest}
    (h : sketch l' r' = sketch l r) : l'.queue r'.number = l.queue r.number := by
  have hs : l'.schedulers[r'.number]? = l.schedulers[r.number]? :=
    congrArg Portrait.scheduler h
  unfold EventLoop.queue
  rw [hs]

theorem sketch_putBench (l : EventLoop) (r : RenderRequest) (b : Bench) :
    sketch (l.putBench r.number b) r = { sketch l r with
      scheduler := (sketch l r).scheduler.map ({ · with queue := b.queue }) } := by
  have hs : (l.putBench r.number b).schedulers[r.number]?
      = (l.schedulers[r.number]?).map ({ · with queue := b.queue }) :=
    List.getElem?_modify_eq _ _ _
  unfold sketch
  rw [hs]
  rfl

theorem sketch_putBench_eq {l l' : EventLoop} {r r' : RenderRequest} {b b' : Bench}
    (h : sketch l' r' = sketch l r) (hb : b'.queue = b.queue) :
    sketch (l'.putBench r'.number b') r' = sketch (l.putBench r.number b) r := by
  rw [sketch_putBench, sketch_putBench, h, hb]

/-- A job is started for a request, and handed to it. -/
theorem sketch_startDrain {l : EventLoop} {r : RenderRequest} (hook : Hook) (name : String)
    (hr : r.drain = some l.jobs.length) :
    sketch (l.startDrain r.number hook name).2 r = { sketch l r with
      drains := (sketch l r).drains ++ [{ request := 0, hook, name, due := 0 }]
      ending := some none } := by
  have hnew : (l.startDrain r.number hook name).2.jobs[l.jobs.length]?
      = some (.drain { request := r.number, hook, name, due := l.now }) :=
    List.getElem?_concat_length
  unfold sketch
  rw [EventLoop.drainsOf_startDrain, List.map_append, hr, Option.map_some, EventLoop.ending?,
    hnew]
  rfl

/-- What becomes of the job that drains a request. -/
theorem sketch_putJob {l : EventLoop} {r : RenderRequest} {j : Nat} {d : DrainJob} {job : Job}
    (hj : l.jobs[j]? = some (.drain d)) (hone : l.drainsOf d.request = [d])
    (hr : r.number = d.request) (hdrain : ∀ i, r.drain = some i → i = j)
    (hjob : (job.drainOf? d.request).map DrainJob.core = job.core.drain?) :
    sketch (l.putJob j job) r = { sketch l r with
      drains := job.core.drain?.toList
      ending := (sketch l r).ending.map fun _ => job.core.ending? } := by
  have hlt := (List.getElem?_eq_some_iff.mp hj).1
  obtain ⟨-, hdrains⟩ := EventLoop.drainsOf_putJob (j := job) hj hone
  have hcore : ((l.putJob j job).drainsOf r.number).map DrainJob.core
      = job.core.drain?.toList := by
    rw [hr, hdrains, ← hjob]
    cases job.drainOf? d.request <;> rfl
  have hending : r.drain.map (l.putJob j job).ending?
      = (r.drain.map l.ending?).map fun _ => job.core.ending? := by
    cases hd : r.drain with
    | none => rfl
    | some i =>
      obtain rfl := hdrain i hd
      exact congrArg some (EventLoop.ending?_putJob hlt job)
  unfold sketch
  rw [hcore, hending]
  rfl

/-! ## Actions -/

theorem abort_eq (srv : Server σ) (r : RenderRequest) :
    ∃ events, Journal.dispatches events = [] ∧
      srv.abort r = ((srv.close r).1, (srv.close r).2.record events) := by
  obtain ⟨lines, hl⟩ := (srv.close r).2.log_eq r .warn "render aborted"
    [.number "discarded_tasks" (.ofNat (srv.close r).1)]
  refine ⟨lines.map .line ++ told srv.observed r.number .aborted, ?_, ?_⟩
  · rw [Journal.dispatches_append, Journal.dispatches_lines, dispatches_told, List.append_nil]
  · unfold abort
    dsimp only
    rw [notify_eq, hl, record_record]
    rfl

theorem complete_of_error {r : RenderRequest} {fault : RenderFault} {sink : ResponseSink}
    (hf : r.sink.finish = (.error fault, sink)) :
    ∃ events, Journal.dispatches events = [] ∧
      srv.complete r = (.error fault, (srv.close { r with sink }).2.record events) := by
  obtain ⟨lines, hl⟩ := (srv.close { r with sink }).2.log_eq { r with sink } .error
    "response flush failed" [.text "error" fault.message,
      .number "discarded_tasks" (.ofNat (srv.close { r with sink }).1)]
  refine ⟨lines.map .line ++ told srv.observed r.number .aborted, ?_, ?_⟩
  · rw [Journal.dispatches_append, Journal.dispatches_lines, dispatches_told, List.append_nil]
  · unfold complete
    rw [hf]
    dsimp only
    rw [notify_eq, hl, record_record]
    rfl

theorem complete_of_ok {r : RenderRequest} {receipt : Receipt} {sink : ResponseSink}
    (hf : r.sink.finish = (.ok receipt, sink)) :
    ∃ events, Journal.dispatches events = [] ∧
      srv.complete r = (.ok (), Server.putRequest
        { srv with
          loop := ((srv.loop.record events).startDrain r.number srv.hook "").2 }
        { r with sink, isOpen := false, drain := some srv.loop.jobs.length }) := by
  obtain ⟨lines, hc⟩ := srv.complete_eq hf
  refine ⟨lines.map .line ++ told srv.observed r.number .flushed, ?_, Prod.ext ?_ hc⟩
  · rw [Journal.dispatches_append, Journal.dispatches_lines, dispatches_told, List.append_nil]
  · unfold complete
    rw [hf]

namespace Pair

variable {r r' : RenderRequest}

theorem lt (h : Pair k n srv srv' r r') : k < srv.requests.length :=
  lt_of_request? h.left

theorem lt' (h : Pair k n srv srv' r r') : n < srv'.requests.length :=
  lt_of_request? h.right

theorem client (h : Pair k n srv srv' r r') : r'.client = r.client :=
  congrArg (·.request.client) h.same

theorem sink (h : Pair k n srv srv' r r') : r'.sink = r.sink :=
  congrArg (·.request.sink) h.same

theorem isOpen (h : Pair k n srv srv' r r') : r'.isOpen = r.isOpen :=
  congrArg (·.request.isOpen) h.same

theorem queue (h : Pair k n srv srv' r r') : srv'.loop.queue n = srv.loop.queue k := by
  have hq := queue_of_sketch h.same
  rw [h.number, h.number'] at hq
  exact hq

theorem ending (h : Pair k n srv srv' r r') :
    r'.drain.map srv'.loop.ending? = r.drain.map srv.loop.ending? :=
  congrArg Portrait.ending h.same

theorem same_client (h : Pair k n srv srv' r r') (client : Client) :
    sketch srv'.loop { r' with client } = sketch srv.loop { r with client } :=
  congrArg (fun p => { p with request := { p.request with client } }) h.same

/-- Both requests are changed, alike, and maybe fetches are handed over. -/
theorem agrees_put (h : Pair k n srv srv' r r') (q q' : RenderRequest) (events : List Event)
    (fetches fetches' : σ) (answer : Answer) (hq : q.number = r.number)
    (hq' : q'.number = r'.number) (hs : sketch srv'.loop q' = sketch srv.loop q) :
    Agrees k n srv srv'
      (answer, ({ srv with fetches }.record events).putRequest q)
      (answer, ({ srv' with fetches := fetches' }.record events).putRequest q') := by
  refine agrees_of_sketch _ _ answer ?_ ?_ hs ⟨Journal.dispatches events, ?_, ?_⟩
  · exact request?_putRequest ({ srv with fetches }.record events) h.lt (hq.trans h.number)
  · exact request?_putRequest ({ srv' with fetches := fetches' }.record events) h.lt'
      (hq'.trans h.number')
  · exact dispatched_record srv events
  · exact dispatched_record srv' events

/-- Both requests and both loops are changed, alike, and no fetch is handed over. -/
theorem agrees_loops (h : Pair k n srv srv' r r') (q q' : RenderRequest) (l l' : EventLoop)
    (answer : Answer) (hq : q.number = r.number) (hq' : q'.number = r'.number)
    (hs : sketch l' q' = sketch l q) (hd : Journal.dispatches l.journal = srv.dispatched)
    (hd' : Journal.dispatches l'.journal = srv'.dispatched) :
    Agrees k n srv srv' (answer, Server.putRequest { srv with loop := l } q)
      (answer, Server.putRequest { srv' with loop := l' } q') := by
  refine agrees_of_sketch _ _ answer ?_ ?_ hs ⟨[], ?_, ?_⟩
  · exact request?_putRequest { srv with loop := l } h.lt (hq.trans h.number)
  · exact request?_putRequest { srv' with loop := l' } h.lt' (hq'.trans h.number')
  · exact hd.trans (List.append_nil _).symm
  · exact hd'.trans (List.append_nil _).symm

/-- Both requests are changed, alike. -/
theorem agrees_putRequest (h : Pair k n srv srv' r r') (q q' : RenderRequest) (answer : Answer)
    (hq : q.number = r.number) (hq' : q'.number = r'.number)
    (hs : sketch srv'.loop q' = sketch srv.loop q) :
    Agrees k n srv srv' (answer, srv.putRequest q) (answer, srv'.putRequest q') :=
  h.agrees_loops q q' srv.loop srv'.loop answer hq hq' hs rfl rfl

/-- The benches of both requests are changed, alike, and no fetch is handed over. -/
theorem agrees_putBench (h : Pair k n srv srv' r r') {b b' : Bench} (hb : b'.queue = b.queue)
    (hj : Journal.dispatches b.journal = srv.dispatched)
    (hj' : Journal.dispatches b'.journal = srv'.dispatched) (answer : Answer) :
    Agrees k n srv srv' (answer, { srv with loop := srv.loop.putBench k b })
      (answer, { srv' with loop := srv'.loop.putBench n b' }) := by
  have hs := sketch_putBench_eq h.same hb
  rw [h.number, h.number'] at hs
  refine agrees_of_sketch _ _ answer h.left h.right hs ⟨[], ?_, ?_⟩
  · exact hj.trans (List.append_nil _).symm
  · exact hj'.trans (List.append_nil _).symm

theorem agrees_register (h : Pair k n srv srv' r r') (task : Deferred.Task) :
    Agrees k n srv srv' (.done, srv.register k task) (.done, srv'.register n task) :=
  h.agrees_putBench (queue_register h.queue task) (dispatches_register _ task)
    (dispatches_register _ task) .done

theorem agrees_prepare (h : Pair k n srv srv' r r') (input : Input) :
    Agrees k n srv srv' ((srv.prepare r input).map .prepared id)
      ((srv'.prepare r' input).map .prepared id) := by
  unfold prepare
  rw [h.client]
  rcases r.client.prepare input with ⟨result, events, client⟩
  exact h.agrees_put { r with client } { r' with client } events _ _ (.prepared result) rfl rfl
    (h.same_client client)

theorem agrees_fetch (h : Pair k n srv srv' r r') (ht : Twins answer k n srv srv')
    (input : Input) : Agrees k n srv srv' ((srv.fetch r input).map .fetched id)
      ((srv'.fetch r' input).map .fetched id) := by
  obtain ⟨result, events, client, ds, hf⟩ :=
    r.client.fetch_of_steady srv.fetcher answer input
  have hleft := hf _ ht.left.steady
  have hright := hf _ ht.steady
  rw [← ht.fetcher] at hright
  unfold fetch
  rw [h.client, hleft, hright]
  exact h.agrees_put { r with client } { r' with client } events _ _ (.fetched result) rfl rfl
    (h.same_client client)

theorem agrees_fetchJson (h : Pair k n srv srv' r r') (ht : Twins answer k n srv srv')
    (input : Input) : Agrees k n srv srv' ((srv.fetchJson r input).map .parsed id)
      ((srv'.fetchJson r' input).map .parsed id) := by
  obtain ⟨result, events, client, ds, hf⟩ :=
    r.client.fetchJson_of_steady srv.fetcher answer input
  have hleft := hf _ ht.left.steady
  have hright := hf _ ht.steady
  rw [← ht.fetcher] at hright
  unfold fetchJson
  rw [h.client, hleft, hright]
  exact h.agrees_put { r with client } { r' with client } events _ _ (.parsed result) rfl rfl
    (h.same_client client)

/-- Both sinks are changed, alike. -/
theorem agrees_sink (h : Pair k n srv srv' r r') (change : ResponseSink → ResponseSink)
    (answer : Answer) :
    Agrees k n srv srv' (answer, srv.putRequest { r with sink := change r.sink })
      (answer, srv'.putRequest { r' with sink := change r'.sink }) := by
  rw [h.sink]
  have hs : sketch srv'.loop { r' with sink := change r.sink }
      = sketch srv.loop { r with sink := change r.sink } :=
    congrArg (fun p => { p with request := { p.request with sink := change r.sink } }) h.same
  exact h.agrees_putRequest _ _ answer rfl rfl hs

theorem agrees_log (h : Pair k n srv srv' r r') (level : Level) (message : String)
    (fields : List Field) : Agrees k n srv srv' (.done, srv.log r level message fields)
      (.done, srv'.log r' level message fields) := by
  refine agrees_of_sketch _ _ .done h.left h.right h.same ⟨[], ?_, ?_⟩
  · rw [dispatched_log, List.append_nil]
  · rw [dispatched_log, List.append_nil]

theorem discarded_eq (h : Pair k n srv srv' r r') :
    (srv'.loop.discard r'.number).1 = (srv.loop.discard r.number).1 :=
  congrArg (·.tasks.length) (queue_of_sketch h.same)

/-- Both requests are closed, and lines and phases are written. -/
theorem agrees_close (h : Pair k n srv srv' r r') (sink : ResponseSink) (answer : Answer)
    (events events' : List Event) (he : Journal.dispatches events = [])
    (he' : Journal.dispatches events' = []) :
    Agrees k n srv srv' (answer, (srv.close { r with sink }).2.record events)
      (answer, (srv'.close { r' with sink }).2.record events') := by
  have hs : sketch srv'.loop { r' with sink, isOpen := false }
      = sketch srv.loop { r with sink, isOpen := false } :=
    congrArg (fun p => { p with request := { p.request with sink, isOpen := false } }) h.same
  refine h.agrees_loops { r with sink, isOpen := false } { r' with sink, isOpen := false }
    ((srv.loop.discard r.number).2.record events)
    ((srv'.loop.discard r'.number).2.record events') answer rfl rfl ?_ ?_ ?_
  · exact sketch_putBench_eq hs (congrArg Queue.discard (queue_of_sketch h.same))
  · exact (Journal.dispatches_append _ _).trans (he ▸ List.append_nil _)
  · exact (Journal.dispatches_append _ _).trans (he' ▸ List.append_nil _)

theorem agrees_drop (h : Pair k n srv srv' r r') :
    Agrees k n srv srv' (.done, (srv.close r).2) (.done, (srv'.close r').2) := by
  have hsink : ({ r' with sink := r.sink } : RenderRequest) = r' := by rw [← h.sink]
  have hclose := h.agrees_close r.sink .done [] [] rfl rfl
  rwa [record_nil, record_nil, hsink] at hclose

theorem agrees_abort (h : Pair k n srv srv' r r') :
    Agrees k n srv srv' ((srv.abort r).map .discarded id) ((srv'.abort r').map .discarded id) := by
  obtain ⟨events, hev, ha⟩ := srv.abort_eq r
  obtain ⟨events', hev', ha'⟩ := srv'.abort_eq r'
  have hsink : ({ r' with sink := r.sink } : RenderRequest) = r' := by rw [← h.sink]
  have hclose := h.agrees_close r.sink (.discarded (srv.close r).1) events events' hev hev'
  have hcount : (srv'.close r').1 = (srv.close r).1 := h.discarded_eq
  rw [hsink] at hclose
  rw [ha, ha', hcount]
  exact hclose

theorem agrees_complete (h : Pair k n srv srv' r r') (ho : srv'.hook = srv.hook) :
    Agrees k n srv srv' ((srv.complete r).map .completed id)
      ((srv'.complete r').map .completed id) := by
  obtain ⟨result, sink, hf⟩ : ∃ result sink, r.sink.finish = (result, sink) := ⟨_, _, rfl⟩
  have hf' := hf
  rw [← h.sink] at hf'
  cases result with
  | error fault =>
    obtain ⟨events, hev, hc⟩ := srv.complete_of_error hf
    obtain ⟨events', hev', hc'⟩ := srv'.complete_of_error hf'
    rw [hc, hc']
    exact h.agrees_close sink (.completed (.error fault)) events events' hev hev'
  | ok receipt =>
    obtain ⟨events, hev, hc⟩ := srv.complete_of_ok hf
    obtain ⟨events', hev', hc'⟩ := srv'.complete_of_ok hf'
    rw [hc, hc', ho]
    let q : RenderRequest :=
      { r with sink, isOpen := false, drain := some srv.loop.jobs.length }
    let q' : RenderRequest :=
      { r' with sink, isOpen := false, drain := some srv'.loop.jobs.length }
    -- Both have been handed a job that has not run yet.
    have hnew := sketch_startDrain (l := srv.loop.record events) (r := q) srv.hook "" rfl
    have hnew' := sketch_startDrain (l := srv'.loop.record events') (r := q') srv.hook "" rfl
    have hs : sketch ((srv'.loop.record events').startDrain r'.number srv.hook "").2 q'
        = sketch ((srv.loop.record events).startDrain r.number srv.hook "").2 q := by
      refine hnew'.trans (Eq.trans ?_ hnew.symm)
      exact congrArg (fun p : Portrait => ({ p with
        request := { p.request with sink, isOpen := false }
        drains := p.drains ++ [{ request := 0, hook := srv.hook, name := "", due := 0 }]
        ending := some none } : Portrait)) h.same
    refine h.agrees_loops q q' _ _ (.completed (.ok ())) rfl rfl hs ?_ ?_
    · exact (Journal.dispatches_append _ _).trans (hev ▸ List.append_nil _)
    · exact (Journal.dispatches_append _ _).trans (hev' ▸ List.append_nil _)

end Pair

/-! ## Deeds -/

namespace Twins

theorem exists_pair (ht : Twins answer k n srv srv') :
    (srv.request? k = none ∧ srv'.request? n = none) ∨ ∃ r r', Pair k n srv srv' r r' := by
  have hp := ht.portrait
  unfold Server.portrait at hp
  cases hr : srv.request? k with
  | none =>
    rw [hr] at hp
    exact .inl ⟨rfl, Option.map_eq_none_iff.mp hp⟩
  | some r =>
    rw [hr] at hp
    obtain ⟨r', hr', hs⟩ := Option.map_eq_some_iff.mp hp
    exact .inr ⟨r, r', hr, hr', ht.left.sound.number_of_request? hr,
      ht.right.sound.number_of_request? hr', hs⟩

theorem agrees_onSink (ht : Twins answer k n srv srv')
    {act act' : RenderRequest → Answer × Server σ}
    (h : ∀ r r', Pair k n srv srv' r r' → Agrees k n srv srv' (act r) (act' r')) :
    Agrees k n srv srv' (srv.onSink k act) (srv'.onSink n act') := by
  unfold onSink
  rcases ht.exists_pair with ⟨hr, hr'⟩ | ⟨r, r', hp⟩
  · rw [hr, hr']
    exact .refl ht.portrait .notOpen
  · rw [hp.left, hp.right]
    exact h r r' hp

theorem agrees_whileOpen (ht : Twins answer k n srv srv')
    {act act' : RenderRequest → Answer × Server σ}
    (h : ∀ r r', Pair k n srv srv' r r' → Agrees k n srv srv' (act r) (act' r')) :
    Agrees k n srv srv' (srv.whileOpen k act) (srv'.whileOpen n act') := by
  unfold whileOpen open?
  rcases ht.exists_pair with ⟨hr, hr'⟩ | ⟨r, r', hp⟩
  · rw [hr, hr']
    exact .refl ht.portrait .notOpen
  · rw [hp.left, hp.right]
    cases ho : r.isOpen with
    | false =>
      rw [Option.filter_some, Option.filter_some, hp.isOpen, ho]
      exact .refl ht.portrait .notOpen
    | true =>
      rw [Option.filter_some, Option.filter_some, hp.isOpen, ho]
      exact h r r' hp

/-- What is done at once with both requests. -/
theorem agrees_actOn (ht : Twins answer k n srv srv') (action : RequestAction)
    (ha : (Action.request 0 action).isPrompt = true) :
    Agrees k n srv srv' (srv.actOn k action) (srv'.actOn n action) := by
  cases action with
  | after task => exact ht.agrees_whileOpen fun _ _ hp => hp.agrees_register task
  | register task => exact ht.agrees_onSink fun _ _ hp => hp.agrees_register task
  | prepare input => exact ht.agrees_whileOpen fun _ _ hp => hp.agrees_prepare input
  | fetch input => exact ht.agrees_whileOpen fun _ _ hp => hp.agrees_fetch ht input
  | fetchJson input => exact ht.agrees_whileOpen fun _ _ hp => hp.agrees_fetchJson ht input
  | log level message fields =>
    exact ht.agrees_whileOpen fun _ _ hp => hp.agrees_log level message fields
  | send chunk =>
    refine ht.agrees_onSink fun r r' hp => ?_
    have hs := hp.agrees_sink (·.sendChunk chunk |>.2) (.sent (r.sink.sendChunk chunk).1)
    unfold send
    rw [hp.sink] at hs ⊢
    exact hs
  | finishSink =>
    refine ht.agrees_onSink fun r r' hp => ?_
    have hs := hp.agrees_sink (·.finish.2) (.finished r.sink.finish.1)
    unfold finishSink
    rw [hp.sink] at hs ⊢
    exact hs
  | dropReceiver =>
    exact ht.agrees_onSink fun _ _ hp =>
      hp.agrees_sink (fun s => { s with channel := s.channel.dropReceiver }) .done
  | complete => exact ht.agrees_whileOpen fun _ _ hp => hp.agrees_complete ht.hook
  | abort => exact ht.agrees_whileOpen fun _ _ hp => hp.agrees_abort
  | drop => exact ht.agrees_whileOpen fun _ _ hp => hp.agrees_drop
  | hold | join => cases ha

end Twins

/-- The job that a request has been handed is the one that drains it. -/
theorem Kept.eq_of_drain (h : Kept answer srv) {r : RenderRequest} {i j : Nat} {d : DrainJob}
    (hr : srv.request? k = some r) (hi : r.drain = some i)
    (hj : srv.loop.jobs[j]? = some (.drain d)) (hd : d.request = k) : i = j := by
  subst hd
  have hone := h.sound.drainsOf_eq hj
  obtain ⟨job, stage, accepted, hjob, hshows, hst⟩ := h.attended _ r i hr hi
  obtain ⟨hstage, -⟩ := hst.draining (EventLoop.mem_drainsOf_of_getElem? hj)
  cases hshows with
  | draining he => exact EventLoop.eq_of_drainsOf hone hjob hj he rfl
  | reported | cancelled => cases hstage

/-- Jobs that drain two requests, alike. -/
structure DrainPair (k n : Nat) (srv srv' : Server σ) (j j' : Nat) (d d' : DrainJob)
    (s : Scheduler) : Prop where
  left : srv.loop.jobs[j]? = some (.drain d)
  right : srv'.loop.jobs[j']? = some (.drain d')
  request : d.request = k
  request' : d'.request = n
  same : d'.core = d.core
  scheduler : srv.loop.schedulers[k]? = some s
  scheduler' : srv'.loop.schedulers[n]? = some s

namespace Pair

variable {r r' : RenderRequest}

theorem drains_eq (h : Pair k n srv srv' r r') :
    (srv'.loop.drainsOf n).map DrainJob.core = (srv.loop.drainsOf k).map DrainJob.core := by
  have hd := congrArg Portrait.drains h.same
  simp only [sketch, h.number, h.number'] at hd
  exact hd

theorem isSome_drainJob? (h : Pair k n srv srv' r r') :
    (srv'.loop.drainJob? n).isSome = (srv.loop.drainJob? k).isSome := by
  have hlen := congrArg List.length h.drains_eq
  simp only [List.length_map] at hlen
  rw [Bool.eq_iff_iff, Option.isSome_iff_ne_none, Option.isSome_iff_ne_none, Ne, Ne,
    EventLoop.drainJob?_eq_none_iff, EventLoop.drainJob?_eq_none_iff, ← List.length_eq_zero_iff,
    ← List.length_eq_zero_iff, hlen]

theorem scheduler_eq (h : Pair k n srv srv' r r') :
    srv'.loop.schedulers[n]? = srv.loop.schedulers[k]? := by
  have hs := congrArg Portrait.scheduler h.same
  simp only [sketch, h.number, h.number'] at hs
  exact hs

theorem report?_eq (h : Pair k n srv srv' r r') : srv'.report? r' = srv.report? r := by
  unfold report?
  rw [EventLoop.bind_ending?, EventLoop.bind_ending?, h.ending]

end Pair

namespace Twins

/-- Both requests are being drained, alike, or neither. -/
theorem agrees_whileDraining (ht : Twins answer k n srv srv')
    {goOn goOn' : Nat → DrainJob → Scheduler → EventLoop}
    (h : ∀ r r' j j' d d' s, Pair k n srv srv' r r' → DrainPair k n srv srv' j j' d d' s →
      Agrees k n srv srv' (.done, { srv with loop := goOn j d s })
        (.done, { srv' with loop := goOn' j' d' s })) :
    Agrees k n srv srv' (srv.whileDraining k goOn) (srv'.whileDraining n goOn') := by
  have hnone : srv.loop.drainJob? k = none → srv'.loop.drainJob? n = none →
      Agrees k n srv srv' (srv.whileDraining k goOn) (srv'.whileDraining n goOn') := by
    intro hj hj'
    simp only [whileDraining, hj, hj']
    exact .refl ht.portrait .notDrained
  -- Both requests have begun or neither has, and then both are being drained or neither is.
  rcases ht.exists_pair with ⟨hr, hr'⟩ | ⟨r, r', hp⟩
  · have hle := List.getElem?_eq_none_iff.mp hr
    have hle' := List.getElem?_eq_none_iff.mp hr'
    exact hnone (EventLoop.drainJob?_eq_none_iff.mpr (drainsOf_of_le ht.left.sound.jobs hle))
      (EventLoop.drainJob?_eq_none_iff.mpr (drainsOf_of_le ht.right.sound.jobs hle'))
  · have hsome := hp.isSome_drainJob?
    cases hj : srv.loop.drainJob? k with
    | none =>
      rw [hj] at hsome
      exact hnone hj (Option.isNone_iff_eq_none.mp (Option.isSome_eq_false_iff.mp hsome))
    | some p =>
      rw [hj] at hsome
      obtain ⟨p', hj'⟩ := Option.isSome_iff_exists.mp hsome
      obtain ⟨j, d⟩ := p
      obtain ⟨j', d'⟩ := p'
      obtain ⟨hjob, rfl⟩ := EventLoop.getElem?_of_drainJob? hj
      obtain ⟨hjob', rfl⟩ := EventLoop.getElem?_of_drainJob? hj'
      have hcore := hp.drains_eq
      rw [ht.left.sound.drainsOf_eq hjob, ht.right.sound.drainsOf_eq hjob'] at hcore
      obtain ⟨s, hs⟩ := ht.left.sound.scheduler hp.lt
      have hs' := hp.scheduler_eq.trans hs
      rw [ht.left.sound.whileDraining_eq hjob hs, ht.right.sound.whileDraining_eq hjob' hs']
      exact h r r' j j' d d' s hp
        ⟨hjob, hjob', rfl, rfl, (List.cons.inj hcore).1, hs, hs'⟩

/-- The benches of both requests and the jobs that drain them are changed, alike. -/
theorem agrees_putJob (ht : Twins answer k n srv srv') {r r' : RenderRequest}
    (hp : Pair k n srv srv' r r') {j j' : Nat} {d d' : DrainJob} {s : Scheduler}
    (hd : DrainPair k n srv srv' j j' d d' s) (b b' : Bench) (events events' : List Event)
    (job job' : Job) (hb : b'.queue = b.queue)
    (hev : Journal.dispatches (b.journal ++ events) = srv.dispatched)
    (hev' : Journal.dispatches (b'.journal ++ events') = srv'.dispatched)
    (hcore : job'.core = job.core)
    (hjob : (job.drainOf? k).map DrainJob.core = job.core.drain?)
    (hjob' : (job'.drainOf? n).map DrainJob.core = job'.core.drain?) :
    Agrees k n srv srv'
      (.done, { srv with loop := ((srv.loop.putBench k b).record events).putJob j job })
      (.done, { srv' with loop := ((srv'.loop.putBench n b').record events').putJob j' job' }) := by
  obtain ⟨hj, hj', rfl, rfl, -, -, -⟩ := hd
  have hbench := sketch_putBench_eq hp.same hb
  rw [hp.number, hp.number'] at hbench
  have hleft := sketch_putJob (l := (srv.loop.putBench d.request b).record events) hj
    (ht.left.sound.drainsOf_eq hj) hp.number
    (fun i hi => ht.left.eq_of_drain hp.left hi hj rfl) hjob
  have hright := sketch_putJob (l := (srv'.loop.putBench d'.request b').record events') hj'
    (ht.right.sound.drainsOf_eq hj') hp.number'
    (fun i hi => ht.right.eq_of_drain hp.right hi hj' rfl) hjob'
  refine agrees_of_sketch _ _ .done hp.left hp.right ?_ ⟨[], ?_, ?_⟩
  · refine hright.trans (Eq.trans ?_ hleft.symm)
    rw [hcore]
    exact congrArg (fun p : Portrait => ({ p with
      drains := job.core.drain?.toList
      ending := p.ending.map fun _ => job.core.ending? } : Portrait)) hbench
  · exact hev.trans (List.append_nil _).symm
  · exact hev'.trans (List.append_nil _).symm

theorem agrees_step (ht : Twins answer k n srv srv') (now room : Nat) (watched : Bool) :
    Agrees k n srv srv' (srv.perform k (.step now room watched))
      (srv'.perform n (.step now room watched)) := by
  refine ht.agrees_whileDraining fun r r' j j' d d' s hp hd => ?_
  obtain ⟨b, turn, events, hev, hstep, hl⟩ := srv.loop.stepDrain_eq j d s now room watched
  obtain ⟨b', turn', events', hev', hstep', hl'⟩ :=
    srv'.loop.stepDrain_eq j' d' s now room watched
  have hqueue : (srv'.loop.bench d'.request).queue = (srv.loop.bench d.request).queue := by
    rw [hd.request, hd.request']
    exact hp.queue
  have hdrain : d'.core.drain = d.core.drain := congrArg DrainJob.drain hd.same
  have hlimit : (srv'.loop.termsOf d'.request s none).limit
      = (srv.loop.termsOf d.request s none).limit := rfl
  have hlike := step_like hqueue hlimit now { d.drain with room, watched }
  change d'.drain = d.drain at hdrain
  rw [hdrain] at hstep'
  rw [hstep, hstep'] at hlike
  obtain ⟨rfl, hb, hleft, hright⟩ := hlike
  rw [hl, hl', hd.request, hd.request']
  refine ht.agrees_putJob hp hd b b' events events' _ _ hb ?_ ?_
    (EventLoop.core_jobAfter hd.same _) ?_ ?_
  · rw [Journal.dispatches_append, hev, List.append_nil]
    exact hleft
  · rw [Journal.dispatches_append, hev', List.append_nil]
    exact hright
  · rw [← hd.request]
    exact EventLoop.core_drainOf?_jobAfter _ d _
  · rw [← hd.request']
    exact EventLoop.core_drainOf?_jobAfter _ d' _

theorem agrees_cancel (ht : Twins answer k n srv srv') :
    Agrees k n srv srv' (srv.perform k .cancel) (srv'.perform n .cancel) := by
  refine ht.agrees_whileDraining fun r r' j j' d d' s hp hd => ?_
  have hcancel := ht.agrees_putJob hp hd (giveUp (srv.loop.bench k) d.drain)
    (giveUp (srv'.loop.bench n) d'.drain) [] [] (.over .done) (.over .done)
    (congrArg Queue.discard hp.queue) (congrArg Journal.dispatches (List.append_nil _))
    (congrArg Journal.dispatches (List.append_nil _)) rfl rfl rfl
  rw [EventLoop.record_nil, EventLoop.record_nil] at hcancel
  unfold EventLoop.cancelDrain
  rw [hd.request, hd.request']
  exact hcancel

theorem agrees_take (ht : Twins answer k n srv srv') :
    Agrees k n srv srv' (srv.perform k .take) (srv'.perform n .take) := by
  refine ht.agrees_onSink fun r r' hp => ?_
  have hs : sketch srv'.loop { r' with drain := none }
      = sketch srv.loop { r with drain := none } :=
    congrArg (fun p => { p with ending := none }) hp.same
  rw [hp.report?_eq]
  exact hp.agrees_putRequest { r with drain := none } { r' with drain := none } _ rfl rfl hs

theorem agrees_dropAgain (ht : Twins answer k n srv srv') :
    Agrees k n srv srv' (srv.perform k .drop) (srv'.perform n .drop) := by
  refine ht.agrees_onSink fun r r' hp => ?_
  rw [hp.isOpen, hp.isSome_drainJob?]
  split
  · exact .refl ht.portrait .notDrained
  · exact hp.agrees_putBench (congrArg Queue.discard hp.queue) rfl rfl .done

/-- Whatever is done with both requests, they come out with the same portrait. -/
theorem agrees_perform (ht : Twins answer k n srv srv') (d : Deed) :
    Agrees k n srv srv' (srv.perform k d) (srv'.perform n d) := by
  cases d with
  | act action hp => exact ht.agrees_actOn action hp
  | step now room watched => exact ht.agrees_step now room watched
  | cancel => exact ht.agrees_cancel
  | take => exact ht.agrees_take
  | drop => exact ht.agrees_dropAgain

end Twins
end Server
end EdgeRender
