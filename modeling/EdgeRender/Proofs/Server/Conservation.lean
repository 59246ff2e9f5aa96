import EdgeRender.Proofs.Deferred.Account
import EdgeRender.Proofs.Server.Phases

/-! # No task is lost

However the tasks of a request end, each one that was let in is executed, cut in flight or
discarded, and only once. A request that is aborted or dropped, or whose response cannot be
finished, discards all of them and tells how many there were.
-/
namespace EdgeRender

open EdgeRender.Deferred EdgeRender.Stream

namespace Server

variable {σ : Type} {srv₀ srv srv' : Server σ} {k n : Nat} {accepted : List Deferred.Task}

/-- All tasks of a request, of which there were so many, have been discarded: none of them
ever begins, and discarding once more discards nothing. -/
structure Discarded (k n : Nat) (srv : Server σ) : Prop where
  queue : srv.loop.queue k = ⟨[], n, true⟩
  again : (srv.loop.discard k).1 = 0 ∧ (srv.loop.discard k).2.queue k = srv.loop.queue k ∧
    (srv.loop.discard k).2.pending = srv.loop.pending
  neverStarts : NeverStarts k srv

/-- The tasks of an open request that were let in are all queued. -/
theorem Stands.ids_of_waiting (h : srv.Stands k .waiting accepted) :
    (srv.loop.queue k).ids = List.range (srv.loop.queued k) ∧
      (srv.loop.queue k).nextId = srv.loop.queued k ∧ accepted.length = srv.loop.queued k := by
  have hroll := h.sound.map_id_roll rfl
  have hids : (srv.loop.queue k).ids = List.range accepted.length := hroll
  have hlen : accepted.length = srv.loop.queued k := by
    have hl := congrArg List.length hids
    rw [List.length_range, Queue.ids, List.length_map] at hl
    exact hl.symm
  have hnext : (srv.loop.queue k).nextId = accepted.length := h.sound.numbered
  exact ⟨hlen ▸ hids, hnext.trans hlen, hlen⟩

/-- Discarding a queue that is closed and empty changes nothing. -/
theorem Stands.discarded (h : srv.Stands k .discarded accepted) (hs : srv.Sound) :
    Discarded k accepted.length srv := by
  have hq : srv.loop.queue k = ⟨[], accepted.length, true⟩ := h.sound.queue_of_isOver rfl
  obtain ⟨s, hsch⟩ := hs.scheduler h.lt
  have hbench : (srv.loop.discard k).2.bench k = (srv.loop.bench k).discard.2 :=
    EventLoop.bench_putBench (srv.loop.bench k).discard.2 hsch
  refine ⟨hq, ⟨?_, ?_, ?_⟩, ?_⟩
  · show (srv.loop.queue k).tasks.length = 0
    rw [hq]
    rfl
  · refine (congrArg Bench.queue hbench).trans ?_
    show (srv.loop.queue k).discard = _
    rw [hq]
    rfl
  · show srv.loop.pending.release (srv.loop.queue k).tasks.length = _
    rw [hq]
    rfl
  · intro a ha
    exact (h.ended_of_reaches hs rfl ha).sound.told

/-- Whoever closes a request without its tasks being run discards all of them. -/
theorem Closes.discarded (hc : Closes k srv srv') (h : srv.Sound) :
    Discarded k (srv.loop.queued k) srv' := by
  obtain ⟨r, hr⟩ := hc.isOpen
  obtain ⟨stage, accepted, hst⟩ := h.stands k (lt_of_open? hr)
  obtain ⟨rfl, -⟩ := hst.waiting hr
  rw [← hst.ids_of_waiting.2.2]
  exact (hc.stands h hst).discarded ((hc.effect h).sound h)

/-- When a drain is dropped its tasks are those that have an outcome, the one in flight and
those in the queue, which is emptied and closed. No other call ever begins. -/
theorem Stands.cut (h : srv.Sound) {j : Nat} {d : DrainJob}
    (hj : srv.loop.jobs[j]? = some (.drain d))
    (hr : Reaches EventLoop.Stepped { srv with loop := srv.loop.cancelDrain j d } srv') :
    let n := (srv.loop.queue d.request).nextId
    d.drain.report.order ++ d.drain.ids ++ (srv.loop.queue d.request).ids = List.range n ∧
      srv'.loop.queue d.request = ⟨[], n, true⟩ ∧
      Journal.startedOf d.request srv'.loop.journal = d.drain.report.order ++ d.drain.ids := by
  intro n
  obtain ⟨stage, accepted, hst⟩ := h.stands d.request (h.request_lt hj)
  obtain ⟨s, hs⟩ := h.scheduler hst.lt
  obtain ⟨rfl, -⟩ := hst.draining (EventLoop.mem_drainsOf_of_getElem? hj)
  have hn : n = accepted.length := hst.sound.numbered
  have hroll := hst.sound.map_id_roll rfl
  have hnext : Next EventLoop.Stepped srv { srv with loop := srv.loop.cancelDrain j d } :=
    .looped (.cancelled hj)
  have hend := (hst.cancelled hj hs).ended_of_reaches ((effect_of_next h hnext).sound h) rfl hr
  have htold : Journal.startedOf d.request srv'.loop.journal
      = d.drain.begun.map Ticket.id := hend.sound.told
  refine ⟨?_, ?_, htold.trans d.drain.map_id_begun⟩
  · rw [hn, ← d.drain.map_id_begun]
    exact hroll
  · rw [hn]
    exact hend.sound.queue_of_isOver rfl

/-- The tasks of a queue are conserved. In every session, however it goes on and ends, the
numbers that were given out are those of the tasks executed, the one that was cut, the one in
flight, those queued and those discarded; calls have begun for a first part of them, in
order; and after the end nothing is executed, cut or discarded any more.

In a run of a server this is seen however a request ends. One that is aborted or dropped, or
whose response cannot be finished, discards the tasks that are queued at that moment, which
are all that were let in; aborting tells their number, and none of them ever begins. When the
drain of a request is dropped on the way, its tasks are those that have an outcome, the one
in flight and those in the queue, and none of the latter ever begins. -/
theorem conservation_of_reaches (hnew : srv₀.IsNew) (hr : srv₀.Reaches EventLoop.Stepped srv) :
    (∀ (terms : Terms) (s₀ : Session), s₀.IsNew terms.request → ∀ hs,
      let s := s₀.play terms hs
      let f := s₀.fatesOf terms hs
      s.Accounts terms.request f ∧
        (s.stage.isOver = true →
          f.executed ++ f.cut ++ f.discarded = List.range s.accepted.length ∧
          s.bench.discard.1 = 0 ∧
          ∀ ks, s.fatesOf terms ks = {} ∧ s.Unchanged terms.request (s.play terms ks))) ∧
    (∀ k r, srv.open? k = some r →
      let n := srv.loop.queued k
      (srv.loop.queue k).ids = List.range n ∧
        (srv.actOn k .abort).1 = .discarded n ∧ Discarded k n (srv.actOn k .abort).2 ∧
        Discarded k n (srv.actOn k .drop).2 ∧
        (∀ fault, r.sink.finish.1 = .error fault →
          (srv.actOn k .complete).1 = .completed (.error fault) ∧
          Discarded k n (srv.actOn k .complete).2)) ∧
    (∀ j d, srv.loop.jobs[j]? = some (.drain d) → ∀ srv',
      Reaches EventLoop.Stepped { srv with loop := srv.loop.cancelDrain j d } srv' →
      let n := (srv.loop.queue d.request).nextId
      d.drain.report.order ++ d.drain.ids ++ (srv.loop.queue d.request).ids = List.range n ∧
        srv'.loop.queue d.request = ⟨[], n, true⟩ ∧
        Journal.startedOf d.request srv'.loop.journal
          = d.drain.report.order ++ d.drain.ids) := by
  have h := sound_of_reaches hnew.sound hr
  -- The first part is about a queue by itself, the others are about the queues of the server.
  refine ⟨?_, ?_, fun j d hj srv' => Stands.cut h hj⟩
  · intro terms s₀ hnew hs s f
    obtain ⟨haccount, hend⟩ := Session.accounts_play hnew hs
    refine ⟨haccount, fun ho => ⟨?_, hend ho⟩⟩
    have hpartition := haccount.partition
    obtain ⟨hflight, hqueue⟩ := haccount.ended ho
    have hids : s.bench.queue.ids = [] := by rw [hqueue]; rfl
    rw [hflight, hids, List.append_nil, List.append_nil] at hpartition
    exact hpartition
  · intro k r hopen n
    obtain ⟨stage, accepted, hst⟩ := h.stands k (lt_of_open? hopen)
    obtain ⟨rfl, hnum⟩ := hst.waiting hopen
    have hact : ∀ act : RenderRequest → Answer × Server σ, srv.whileOpen k act = act r := by
      intro act
      unfold whileOpen
      rw [hopen]
    refine ⟨hst.ids_of_waiting.1, ?_, ?_, ?_, ?_⟩
    · rw [actOn, hact]
      show Answer.discarded (srv.loop.queue r.number).tasks.length = _
      rw [hnum]
      rfl
    · rw [actOn, hact]
      exact (closes_abort h hopen).discarded h
    · rw [actOn, hact]
      exact (closes_drop h hopen).discarded h
    · intro fault hfault
      obtain ⟨sink, hf⟩ : ∃ sink, r.sink.finish = (.error fault, sink) :=
        ⟨_, Prod.ext hfault rfl⟩
      rw [actOn, hact]
      refine ⟨?_, (closes_complete h hopen hf).discarded h⟩
      show Answer.completed (srv.complete r).1 = _
      unfold complete
      rw [hf]

/-- The first task runs, the second one is cut while it sleeps, after it has registered
another one, and that one and the third are discarded; then the queue is dropped again. -/
def cutRun : List Happening :=
  [.register (.make "a" none [] []),
    .register (.make "b" none [.register (.make "d" none [] [])] [.sleep 5]),
    .register (.make "c" none [] []), .begin] ++
  List.replicate 7 (.step 0 allowance true) ++ [.cancel, .discard]

/-- One request is being drained, and its first task sleeps; another one is open. -/
def sleepingTask : List Action :=
  let context : RequestContext := { requestId := ⟨"r"⟩, method := .get, path := "/" }
  [.begin context {}, .begin context {},
    .request 0 (.after (.make "a" none [] [.sleep 50])),
    .request 0 (.after (.make "b" none [] [])), .request 1 (.after (.make "c" none [] [])),
    .request 0 .complete, .sleep 10]

theorem conservation_cutRun :
    let fates := Session.fatesOf Session.mixedTerms ⟨{}, .waiting, []⟩ cutRun
    fates = ⟨[0], [1], [2, 3]⟩ ∧
      fates.executed ++ fates.cut ++ fates.discarded = List.range 4 ∧
      ∃ srv : Server Fetch.Catalog, srv.loop.queued 1 = 1 ∧
        Discarded 1 1 (srv.actOn 1 .abort).2 ∧
        ∃ d : DrainJob, srv.loop.jobs[0]? = some (.drain d) ∧ d.drain.ids = [0] ∧
          d.drain.report.order ++ d.drain.ids ++ (srv.loop.queue d.request).ids
            = List.range 2 := by
  intro fates
  have hr := ((canned {}).reaches_run sleepingTask).steps
  obtain ⟨hsession, hends, hcut⟩ := conservation_of_reaches (isNew_canned {}) hr
  have hnew : Session.IsNew Session.mixedTerms.request ⟨{}, .waiting, []⟩ :=
    ⟨rfl, rfl, rfl, rfl⟩
  obtain ⟨-, hover⟩ := hsession Session.mixedTerms ⟨{}, .waiting, []⟩ hnew cutRun
  refine ⟨by decide +kernel, (hover (by decide +kernel)).1, (run (canned {}) sleepingTask).2,
    by decide +kernel, ?_, ?_⟩
  · exact (hends 1 _ rfl).2.2.1
  · refine ⟨_, rfl, by decide +kernel, ?_⟩
    exact (hcut 0 _ rfl _ (.refl _)).1

end Server
end EdgeRender
