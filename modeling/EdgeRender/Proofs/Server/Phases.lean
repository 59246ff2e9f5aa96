import EdgeRender.Proofs.Deferred.Order
import EdgeRender.Proofs.Server.Pending

/-! # The phases of a request

What the observer of a server is told of a request, and when its tasks may run. However
the response goes and the drain is interleaved with it, the phases come in order; no task
begins before the response was finished and reported flushed; a request that is closed in
another way never runs a task; and a request is reported drained when its queue is closed
and all its tasks have ended.
-/
namespace EdgeRender

open EdgeRender.Deferred EdgeRender.Stream

namespace Server

variable {σ : Type} {srv₀ srv srv' : Server σ} {k : Nat} {stage : Stage}
  {accepted : List Deferred.Task}

theorem prefix_of_tells {ps : List Phase} (h : stage.Tells ps) :
    ps <+: [.start, .flushed, .drained] ∨ ps <+: [.start, .aborted] := by
  cases stage with
  | waiting =>
    obtain rfl : ps = [.start] := h
    exact .inl ⟨[.flushed, .drained], rfl⟩
  | draining d | cancelled d =>
    obtain rfl : ps = [.start, .flushed] := h
    exact .inl ⟨[.drained], rfl⟩
  | reported r =>
    obtain rfl : ps = [.start, .flushed, .drained] := h
    exact .inl ⟨[], rfl⟩
  | discarded =>
    rcases h with rfl | rfl
    · exact .inl ⟨[.flushed, .drained], rfl⟩
    · exact .inr ⟨[], rfl⟩

/-- A server is observed all the time or never. -/
theorem observed_of_reaches (h : srv.Sound) (hr : srv.Reaches EventLoop.Stepped srv') :
    srv'.observed = srv.observed := by
  induction hr with
  | refl => rfl
  | tail hab hn ih => exact (effect_of_next (sound_of_reaches h hab) hn).observed.trans ih

/-- Of what stands in the journal nothing is told of a request that is not there. -/
theorem Sound.phasesOf_of_le (h : srv.Sound) (hk : srv.requests.length ≤ k) :
    Journal.phasesOf k srv.loop.journal = [] :=
  Journal.phasesOf_of_silent (h.silent k hk)

theorem Sound.startedOf_of_le (h : srv.Sound) (hk : srv.requests.length ≤ k) :
    Journal.startedOf k srv.loop.journal = [] :=
  Journal.startedOf_of_silent (h.silent k hk)

/-- The phases of a request are in order. -/
theorem Sound.phases_prefix (h : srv.Sound) (ho : srv.observed = true) (k : Nat) :
    Journal.phasesOf k srv.loop.journal <+: [.start, .flushed, .drained] ∨
      Journal.phasesOf k srv.loop.journal <+: [.start, .aborted] := by
  by_cases hk : k < srv.requests.length
  · obtain ⟨stage, accepted, hst⟩ := h.stands k hk
    exact prefix_of_tells (hst.phases ho)
  · rw [h.phasesOf_of_le (by omega)]
    exact .inl List.nil_prefix

/-- No task begins before its request was reported flushed. -/
theorem Sound.inOrder (h : srv.Sound) (ho : srv.observed = true) (k : Nat) :
    Journal.InOrder k srv.loop.journal := by
  by_cases hk : k < srv.requests.length
  · obtain ⟨stage, accepted, hst⟩ := h.stands k hk
    exact hst.inOrder ho
  · intro before t after hsplit
    have hmem : t ∈ Journal.startedOf k srv.loop.journal := by
      rw [hsplit]
      exact Journal.mem_startedOf.mpr (by simp)
    rw [h.startedOf_of_le (by omega)] at hmem
    cases hmem

/-- The stages at which a request has been reported flushed, and drained. -/
theorem flushed_of_tells {ps : List Phase} (h : stage.Tells ps) :
    Phase.flushed ∈ ps ↔ stage ≠ .waiting ∧ stage ≠ .discarded := by
  cases stage with
  | waiting =>
    obtain rfl : ps = [.start] := h
    simp
  | draining d | cancelled d =>
    obtain rfl : ps = [.start, .flushed] := h
    simp
  | reported r =>
    obtain rfl : ps = [.start, .flushed, .drained] := h
    simp
  | discarded => rcases h with rfl | rfl <;> simp

theorem drained_of_tells {ps : List Phase} (h : stage.Tells ps) :
    Phase.drained ∈ ps ↔ ∃ r, stage = .reported r := by
  cases stage with
  | waiting =>
    obtain rfl : ps = [.start] := h
    simp
  | draining d | cancelled d =>
    obtain rfl : ps = [.start, .flushed] := h
    simp
  | reported r =>
    obtain rfl : ps = [.start, .flushed, .drained] := h
    simp
  | discarded => rcases h with rfl | rfl <;> simp

/-- Before its tasks may run none of them has begun. -/
theorem Stands.startedOf_of_waiting (h : srv.Stands k .waiting accepted) :
    Journal.startedOf k srv.loop.journal = [] :=
  h.sound.told

/-- What turns a request into one that was flushed is that it is completed, and that its
response can be finished. -/
structure Flushes (k : Nat) (srv srv' : Server σ) : Prop where
  finished : ∃ r receipt, srv.open? k = some r ∧ r.sink.finish.1 = .ok receipt ∧
    srv' = (srv.complete r).2
  unstarted : Journal.startedOf k srv.loop.journal = []

theorem flushes_of_next (h : srv.Sound) (ho : srv.observed = true)
    (hn : Next EventLoop.Stepped srv srv')
    (hold : Phase.flushed ∉ Journal.phasesOf k srv.loop.journal)
    (hnew : Phase.flushed ∈ Journal.phasesOf k srv'.loop.journal) : Flushes k srv srv' := by
  have he := effect_of_next h hn
  have h' := he.sound h
  have ho' : srv'.observed = true := he.observed.trans ho
  have hk' : k < srv'.requests.length := by
    by_contra hk
    rw [h'.phasesOf_of_le (by omega)] at hnew
    cases hnew
  by_cases hk : k < srv.requests.length
  · obtain ⟨stage, accepted, hst⟩ := h.stands k hk
    obtain ⟨stage', accepted', hst', hf⟩ := he.fate hst
    have hbefore := flushed_of_tells (hst.phases ho)
    have hafter := flushed_of_tells (hst'.phases ho')
    have hnot := fun hs => hold (hbefore.mpr hs)
    have hnow := hafter.mp hnew
    cases hf with
    | stays => exact absurd hnow hnot
    | completes hr hf he =>
      exact ⟨⟨_, _, hr, congrArg Prod.fst hf, he⟩, hst.startedOf_of_waiting⟩
    | closes => exact absurd rfl hnow.2
    | advances => exact absurd ⟨nofun, nofun⟩ hnot
    | cancels => exact absurd ⟨nofun, nofun⟩ hnot
  · have hst' := he.stands_of_le (by omega) hk'
    exact absurd rfl ((flushed_of_tells (hst'.phases ho')).mp hnew).1

/-- A request that was flushed has been completed, and its response could be finished. -/
theorem exists_flushes (hnew : srv₀.IsNew) (ho : srv₀.observed = true)
    (hr : srv₀.Reaches EventLoop.Stepped srv)
    (hf : Phase.flushed ∈ Journal.phasesOf k srv.loop.journal) :
    ∃ a b, srv₀.Reaches EventLoop.Stepped a ∧ Flushes k a b ∧
      b.Reaches EventLoop.Stepped srv := by
  induction hr with
  | refl =>
    rw [hnew.sound.phasesOf_of_le] at hf
    · cases hf
    · rw [hnew.requests]
      exact Nat.zero_le k
  | @tail a b hab hn ih =>
    by_cases hold : Phase.flushed ∈ Journal.phasesOf k a.loop.journal
    · obtain ⟨c, d, hc, hcd, hd⟩ := ih hold
      exact ⟨c, d, hc, hcd, hd.tail hn⟩
    · have hsound := sound_of_reaches hnew.sound hab
      have hobs := (observed_of_reaches hnew.sound hab).trans ho
      exact ⟨a, b, hab, flushes_of_next hsound hobs hn hold hf, .refl b⟩

def NeverStarts (k : Nat) (srv : Server σ) : Prop :=
  ∀ srv', srv.Reaches EventLoop.Stepped srv' → Journal.startedOf k srv'.loop.journal = []

/-- A request that is closed without its tasks being run never runs a task. -/
theorem Closes.neverStarts (hc : Closes k srv srv') (h : srv.Sound) : NeverStarts k srv' := by
  obtain ⟨r, hr⟩ := hc.isOpen
  obtain ⟨stage, accepted, hst⟩ := h.stands k (lt_of_open? hr)
  obtain ⟨rfl, -⟩ := hst.waiting hr
  have hst' := hc.stands h hst
  have hsound := (hc.effect h).sound h
  intro a ha
  exact (hst'.ended_of_reaches hsound rfl ha).sound.told

/-- All tasks of the request that were let in have ended, one after another, and no other
one gets in. -/
structure Drained (k : Nat) (srv : Server σ) : Prop where
  queue : (srv.loop.queue k).tasks = [] ∧ (srv.loop.queue k).closed = true
  started : Journal.startedOf k srv.loop.journal = List.range (srv.loop.queue k).nextId

theorem Stands.drained {r : Report} (h : srv.Stands k (.reported r) accepted) :
    Drained k srv ∧ r.order = List.range (srv.loop.queue k).nextId := by
  have hq : (srv.loop.bench k).queue = ⟨[], accepted.length, true⟩ := h.sound.queue_of_isOver rfl
  have hid : (srv.loop.queue k).nextId = accepted.length := congrArg Queue.nextId hq
  have horder : r.order = List.range accepted.length := by
    rw [Report.order_eq, h.sound.tickets_of_reported rfl, map_id_ticketsOf]
  have htold : Journal.startedOf k srv.loop.journal
      = (r.outcomes.map Outcome.ticket).map Ticket.id := h.sound.told
  rw [← hid] at horder
  refine ⟨⟨⟨congrArg Queue.tasks hq, congrArg Queue.closed hq⟩, ?_⟩, horder⟩
  rw [htold, ← Report.order_eq]
  exact horder

/-- A request is reported drained at the end of a drain that has an outcome for every task
that was let in. -/
theorem drained_of_next (h : srv.Sound) (ho : srv.observed = true)
    (hn : Next EventLoop.Stepped srv srv')
    (hold : Phase.drained ∉ Journal.phasesOf k srv.loop.journal)
    (hnew : Phase.drained ∈ Journal.phasesOf k srv'.loop.journal) :
    Drained k srv' ∧ ∃ d, srv.loop.drainsOf k = [d] ∧ d.drain.inFlight = 0 ∧
      d.drain.report.order = List.range (srv'.loop.queue k).nextId := by
  have he := effect_of_next h hn
  have h' := he.sound h
  have ho' : srv'.observed = true := he.observed.trans ho
  have hk' : k < srv'.requests.length := by
    by_contra hk
    rw [h'.phasesOf_of_le (by omega)] at hnew
    cases hnew
  by_cases hk : k < srv.requests.length
  · obtain ⟨stage, accepted, hst⟩ := h.stands k hk
    obtain ⟨stage', accepted', hst', hf⟩ := he.fate hst
    obtain ⟨r, hr⟩ := (drained_of_tells (hst'.phases ho')).mp hnew
    cases hf with
    | stays => exact absurd ((drained_of_tells (hst.phases ho)).mpr ⟨r, hr⟩) hold
    | completes | closes | cancels => cases hr
    | @advances _ _ d turn hd hlast =>
      cases turn with
      | finished e =>
        obtain ⟨hdrained, horder⟩ := hst'.drained
        obtain ⟨hf, hout⟩ := hlast e rfl
        refine ⟨hdrained, d, hd, hf, ?_⟩
        rw [← horder]
        show d.drain.outcomes.map _ = e.outcomes.map _
        rw [hout]
      | go | paused | waiting | givenUp => cases hr
  · have hst' := he.stands_of_le (by omega) hk'
    obtain ⟨r, hr⟩ := (drained_of_tells (hst'.phases ho')).mp hnew
    cases hr

theorem Sound.drained (h : srv.Sound) (ho : srv.observed = true)
    (hd : Phase.drained ∈ Journal.phasesOf k srv.loop.journal) : Drained k srv := by
  have hk : k < srv.requests.length := by
    by_contra hk
    rw [h.phasesOf_of_le (by omega)] at hd
    cases hd
  obtain ⟨stage, accepted, hst⟩ := h.stands k hk
  obtain ⟨r, rfl⟩ := (drained_of_tells (hst.phases ho)).mp hd
  exact hst.drained.1

/-- What the observer is told of a request in a run of a server, and which tasks of it
begin: the phases come in order; a task begins only after the response was finished and
reported flushed, and before that none has begun; a request that is aborted or dropped, or
whose response cannot be finished, never runs a task; and a request is reported drained
only when its drain has an outcome for every task that was let in and its queue is
closed. -/
theorem phases_of_reaches (hnew : srv₀.IsNew) (ho : srv₀.observed = true)
    (hr : srv₀.Reaches EventLoop.Stepped srv) (k : Nat) :
    (∀ j, j <+: srv.loop.journal →
      Journal.phasesOf k j <+: [.start, .flushed, .drained] ∨
        Journal.phasesOf k j <+: [.start, .aborted]) ∧
    (∀ before t after, srv.loop.journal = before ++ .started k t :: after →
      Phase.flushed ∈ Journal.phasesOf k before ∧
        ∃ a b, srv₀.Reaches EventLoop.Stepped a ∧ Flushes k a b ∧
          b.Reaches EventLoop.Stepped srv) ∧
    (∀ r, srv.open? k = some r →
      NeverStarts k (srv.abort r).2 ∧ NeverStarts k (srv.close r).2 ∧
        ∀ fault, r.sink.finish.1 = .error fault →
          (srv.complete r).1 = .error fault ∧ NeverStarts k (srv.complete r).2) ∧
    (∀ srv', Next EventLoop.Stepped srv srv' →
      Phase.drained ∉ Journal.phasesOf k srv.loop.journal →
      Phase.drained ∈ Journal.phasesOf k srv'.loop.journal →
        Drained k srv' ∧ ∃ d, srv.loop.drainsOf k = [d] ∧ d.drain.inFlight = 0 ∧
          d.drain.report.order = List.range (srv'.loop.queue k).nextId) ∧
    (Phase.drained ∈ Journal.phasesOf k srv.loop.journal → Drained k srv) := by
  have h := sound_of_reaches hnew.sound hr
  have hobs := (observed_of_reaches hnew.sound hr).trans ho
  refine ⟨?_, ?_, ?_, ?_, h.drained hobs⟩
  · rintro j ⟨rest, hj⟩
    have hpre : Journal.phasesOf k j <+: Journal.phasesOf k srv.loop.journal := by
      rw [← hj, Journal.phasesOf_append]
      exact List.prefix_append _ _
    rcases h.phases_prefix hobs k with hp | hp
    · exact .inl (hpre.trans hp)
    · exact .inr (hpre.trans hp)
  · intro before t after hj
    have hflushed := h.inOrder hobs k before t after hj
    refine ⟨hflushed, exists_flushes hnew ho hr ?_⟩
    rw [hj, Journal.phasesOf_append]
    exact List.mem_append_left _ hflushed
  · intro r hopen
    refine ⟨(closes_abort h hopen).neverStarts h, (closes_drop h hopen).neverStarts h, ?_⟩
    intro fault hfault
    obtain ⟨sink, hf⟩ : ∃ sink, r.sink.finish = (.error fault, sink) := ⟨_, Prod.ext hfault rfl⟩
    refine ⟨?_, (closes_complete h hopen hf).neverStarts h⟩
    unfold complete
    rw [hf]
  · intro srv' hn hold hdrained
    exact drained_of_next h hobs hn hold hdrained

/-- Three requests: one whose response is sent and whose tasks run, one whose channel fails
to close, and one that is aborted. -/
def threeRequests : List Action :=
  let context : RequestContext := { requestId := ⟨"r"⟩, method := .get, path := "/" }
  let task : Deferred.Task := .make "a" none [.register (.make "b" none [] [])] [.sleep 5]
  [.begin context {}, .begin context { faults := [⟨.close, 0, "gone"⟩] }, .begin context {},
    .request 0 (.after task), .request 1 (.after task), .request 2 (.after task),
    .request 0 (.send [1, 2]), .request 0 .complete, .request 1 .complete, .request 2 .abort,
    .sleep 10]

theorem phases_threeRequests : ∃ srv : Server Fetch.Catalog,
    Journal.phasesOf 0 srv.loop.journal = [.start, .flushed, .drained] ∧
    Journal.phasesOf 1 srv.loop.journal = [.start, .aborted] ∧
    Journal.phasesOf 2 srv.loop.journal = [.start, .aborted] ∧
    Drained 0 srv ∧ (srv.loop.queue 0).nextId = 2 := by
  let start := canned {}
  have hr := (start.reaches_run threeRequests).steps
  have h := phases_of_reaches (isNew_canned {}) rfl hr 0
  refine ⟨_, ?_, ?_, ?_, h.2.2.2.2 ?_, ?_⟩
  · decide +kernel
  · decide +kernel
  · decide +kernel
  · decide +kernel
  · decide +kernel

end Server
end EdgeRender
