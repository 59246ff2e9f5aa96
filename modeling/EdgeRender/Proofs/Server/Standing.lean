import EdgeRender.Proofs.Server.Interleaving
import Mathlib.Algebra.BigOperators.Group.Finset.Basic
import Mathlib.Algebra.Order.BigOperators.Group.Finset

/-! # How the requests of a server stand

The tasks of a request are at a stage, and the server shows it: by whether the request is
open, by its queue, by the jobs that drain it and by what the journal tells. `Stands` says
how these fit together, for one request; `Sound` says it of all requests, and that the
pending work is the sum of their shares.

Most of what happens to a server concerns one request. `Alike` says that nothing of
another request has changed, and carries its standing over.
-/
namespace EdgeRender

open EdgeRender.Deferred

namespace Deferred.Stage

def isWaiting : Stage → Bool
  | .waiting => true
  | .draining _ | .reported _ | .cancelled _ | .discarded => false

/-- What the observer has been told when the tasks are at a stage. -/
def Tells : Stage → List Phase → Prop
  | .waiting, ps => ps = [.start]
  | .draining _, ps | .cancelled _, ps => ps = [.start, .flushed]
  | .reported _, ps => ps = [.start, .flushed, .drained]
  | .discarded, ps => ps = [.start] ∨ ps = [.start, .aborted]

end Deferred.Stage

/-- No task of a request begins before the request was reported flushed. -/
def Journal.InOrder (k : Nat) (j : Journal) : Prop :=
  ∀ before t after, j = before ++ .started k t :: after →
    Phase.flushed ∈ Journal.phasesOf k before

theorem Journal.InOrder.append {k : Nat} {j events : Journal} (h : InOrder k j)
    (he : Phase.flushed ∈ phasesOf k j ∨ startedOf k events = []) : InOrder k (j ++ events) := by
  intro before t after hsplit
  rcases List.append_eq_append_iff.mp hsplit with ⟨mid, hb, hev⟩ | ⟨mid, hj, ha⟩
  · -- The task begins among the new events.
    rcases he with hf | hn
    · rw [hb, phasesOf_append]
      exact List.mem_append_left _ hf
    · have hm : t ∈ startedOf k events := by
        rw [hev]
        exact mem_startedOf.mpr (by simp)
      rw [hn] at hm
      cases hm
  · cases mid with
    | nil =>
      rcases he with hf | hn
      · rw [List.append_nil] at hj
        rw [← hj]
        exact hf
      · have hm : t ∈ startedOf k events := by
          rw [List.nil_append] at ha
          rw [← ha]
          exact mem_startedOf.mpr (by simp)
        rw [hn] at hm
        cases hm
    | cons e mid =>
      obtain ⟨rfl, -⟩ := List.cons.inj ha
      exact h before t mid hj

namespace Deferred.EventLoop

/-- What has changed in a loop does not concern the request. -/
structure Alike (k : Nat) (l l' : EventLoop) : Prop where
  queue : l'.queue k = l.queue k
  drains : l'.drainsOf k = l.drainsOf k
  journal : ∃ events, l'.journal = l.journal ++ events ∧ Journal.Silent k events

namespace Alike

variable {k : Nat} {l m n : EventLoop}

theorem refl (k : Nat) (l : EventLoop) : Alike k l l :=
  ⟨rfl, rfl, [], (List.append_nil _).symm, fun _ he => nomatch he⟩

theorem trans (h : Alike k l m) (h' : Alike k m n) : Alike k l n := by
  obtain ⟨events, hj, hn⟩ := h.journal
  obtain ⟨events', hj', hn'⟩ := h'.journal
  refine ⟨h'.queue.trans h.queue, h'.drains.trans h.drains, events ++ events', ?_, ?_⟩
  · rw [hj', hj, List.append_assoc]
  · intro e he
    rcases List.mem_append.mp he with he | he
    · exact hn e he
    · exact hn' e he

theorem share (h : Alike k l m) : m.share k = l.share k := by
  unfold EventLoop.share queued
  rw [h.queue, h.drains]

theorem record {events : List Event} (hn : Journal.Silent k events) :
    Alike k l (l.record events) :=
  ⟨rfl, rfl, events, rfl, hn⟩

theorem putBench {request : Nat} {b : Bench} {events : List Event} (hk : k ≠ request)
    (hj : b.journal = l.journal ++ events) (hn : Journal.Silent k events) :
    Alike k l (l.putBench request b) := by
  have hs : (l.putBench request b).schedulers[k]? = l.schedulers[k]? :=
    List.getElem?_modify_ne _ _ (Ne.symm hk)
  refine ⟨?_, rfl, events, hj, hn⟩
  unfold EventLoop.queue
  rw [hs]

theorem putJob {j : Nat} {old new : Job} (hj : l.jobs[j]? = some old)
    (h : new.drainOf? k = old.drainOf? k) : Alike k l (l.putJob j new) :=
  ⟨rfl, drainsOf_putJob_of_eq hj h, [], (List.append_nil _).symm, fun _ he => nomatch he⟩

theorem start {job : Job} (h : job.drainOf? k = none) : Alike k l (l.start job).2 := by
  refine ⟨rfl, ?_, [], (List.append_nil _).symm, fun _ he => nomatch he⟩
  show (l.jobs ++ [job]).filterMap _ = _
  rw [List.filterMap_append]
  simp [drainsOf, h]

end Alike
end Deferred.EventLoop

namespace Server

variable {σ : Type} {srv srv' : Server σ} {k : Nat}

/-- What has changed in a server does not concern the request. -/
structure Alike (k : Nat) (srv srv' : Server σ) : Prop where
  observed : srv'.observed = srv.observed
  request : ∀ r, srv.request? k = some r →
    ∃ r', srv'.request? k = some r' ∧ r'.number = r.number ∧ r'.isOpen = r.isOpen
  loop : EventLoop.Alike k srv.loop srv'.loop

def hook (srv : Server σ) : Hook :=
  if srv.observed then .observe else .nothing

/-- The tasks of a request are at a stage, and those in the list have been let in. -/
structure Stands (srv : Server σ) (k : Nat) (stage : Stage) (accepted : List Deferred.Task) :
    Prop where
  /-- A request is open until its tasks may run or are dropped. -/
  request : ∃ r, srv.request? k = some r ∧ r.number = k ∧ r.isOpen = stage.isWaiting
  sound : Session.Sound k ⟨srv.loop.bench k, stage, accepted⟩
  drains : (srv.loop.drainsOf k).map DrainJob.drain = stage.drains
  hook : ∀ d ∈ srv.loop.drainsOf k, d.hook = srv.hook
  phases : srv.observed = true → stage.Tells (Journal.phasesOf k srv.loop.journal)
  inOrder : srv.observed = true → Journal.InOrder k srv.loop.journal

variable {stage : Stage} {accepted : List Deferred.Task}

theorem lt_of_request? {r : RenderRequest} (hr : srv.request? k = some r) :
    k < srv.requests.length :=
  (List.getElem?_eq_some_iff.mp hr).1

theorem Stands.lt (h : srv.Stands k stage accepted) : k < srv.requests.length := by
  obtain ⟨r, hr, -⟩ := h.request
  exact lt_of_request? hr

theorem Stands.share (h : srv.Stands k stage accepted) :
    srv.loop.share k = Session.share ⟨srv.loop.bench k, stage, accepted⟩ := by
  have hd : total (·.drain.inFlight) (srv.loop.drainsOf k) = stage.inFlight := by
    rw [← stage.total_inFlight_drains, ← h.drains]
    induction srv.loop.drainsOf k with
    | nil => rfl
    | cons d ds ih =>
      simp only [total, List.map_cons]
      rw [ih]
  unfold EventLoop.share
  rw [hd]
  rfl

theorem Stands.alike (h : srv.Stands k stage accepted) (ha : Alike k srv srv') :
    srv'.Stands k stage accepted := by
  obtain ⟨r, hr, hnum, hopen⟩ := h.request
  obtain ⟨r', hr', hnum', hopen'⟩ := ha.request r hr
  obtain ⟨events, hj, hn⟩ := ha.loop.journal
  have hstarted := Journal.startedOf_of_silent hn
  refine ⟨⟨r', hr', hnum'.trans hnum, hopen'.trans hopen⟩, ?_, ?_, ?_, ?_, ?_⟩
  · exact h.sound.beside ha.loop.queue hj hstarted rfl rfl (fun _ => id) rfl
  · rw [ha.loop.drains]
    exact h.drains
  · unfold Server.hook
    rw [ha.observed, ha.loop.drains]
    exact h.hook
  · intro ho
    rw [ha.observed] at ho
    rw [hj, Journal.phasesOf_append, Journal.phasesOf_of_silent hn, List.append_nil]
    exact h.phases ho
  · intro ho
    rw [ha.observed] at ho
    rw [hj]
    exact (h.inOrder ho).append (.inr hstarted)

/-- A request comes to another stage. -/
theorem Stands.advance {stage' : Stage} {accepted' : List Deferred.Task} {events : List Event}
    (h : srv.Stands k stage accepted) (hobs : srv'.observed = srv.observed)
    (hreq : ∃ r, srv'.request? k = some r ∧ r.number = k ∧ r.isOpen = stage'.isWaiting)
    (hsound : Session.Sound k ⟨srv'.loop.bench k, stage', accepted'⟩)
    (hdrains : (srv'.loop.drainsOf k).map DrainJob.drain = stage'.drains)
    (hhook : ∀ d ∈ srv'.loop.drainsOf k, d.hook = srv.hook)
    (hj : srv'.loop.journal = srv.loop.journal ++ events)
    (hphases : srv.observed = true → ∀ ps, stage.Tells ps →
      stage'.Tells (ps ++ Journal.phasesOf k events))
    (hstarted : (∃ d, stage = .draining d) ∨ Journal.startedOf k events = []) :
    srv'.Stands k stage' accepted' := by
  refine ⟨hreq, hsound, hdrains, ?_, ?_, ?_⟩
  · unfold Server.hook
    rw [hobs]
    exact hhook
  · rw [hobs, hj, Journal.phasesOf_append]
    intro ho
    exact hphases ho _ (h.phases ho)
  · rw [hobs, hj]
    intro ho
    refine (h.inOrder ho).append ?_
    rcases hstarted with ⟨d, rfl⟩ | hn
    · have hps : Journal.phasesOf k srv.loop.journal = [.start, .flushed] := h.phases ho
      rw [hps]
      exact .inl (by simp)
    · exact .inr hn

/-- Every job drains a request of the server, or is over. -/
def JobsFit (srv : Server σ) : Prop :=
  ∀ job ∈ srv.loop.jobs, (∃ d, job = .drain d ∧ d.request < srv.requests.length) ∨
    ∃ ending, job = .over ending

/-- What every server keeps that began without requests. -/
structure Sound (srv : Server σ) : Prop where
  schedulers : srv.loop.schedulers.length = srv.requests.length
  jobs : srv.JobsFit
  stands : ∀ k < srv.requests.length, ∃ stage accepted, srv.Stands k stage accepted
  /-- Of requests to come nothing has been told. -/
  silent : ∀ k, srv.requests.length ≤ k → Journal.Silent k srv.loop.journal
  /-- The pending work is the sum of the shares. -/
  balance : srv.loop.pending.count = ∑ k ∈ Finset.range srv.requests.length, srv.loop.share k

/-- Nothing outside a request has changed. -/
structure Within (k : Nat) (srv srv' : Server σ) : Prop where
  requests : srv'.requests.length = srv.requests.length
  schedulers : srv'.loop.schedulers.length = srv.loop.schedulers.length
  jobs : srv.JobsFit → srv'.JobsFit
  others : ∀ n, n ≠ k → Alike n srv srv'

theorem IsNew.sound (h : srv.IsNew) : srv.Sound where
  schedulers := by rw [h.schedulers, h.requests]; rfl
  jobs := by
    intro job hjob
    rw [h.jobs] at hjob
    cases hjob
  stands := by
    intro k hk
    rw [h.requests] at hk
    exact absurd hk (Nat.not_lt_zero k)
  silent := fun k _ => Journal.silent_of_nameless h.journal k
  balance := by rw [h.count, h.requests]; rfl

theorem Sound.scheduler (h : srv.Sound) (hk : k < srv.requests.length) :
    ∃ s, srv.loop.schedulers[k]? = some s := by
  rw [← h.schedulers] at hk
  exact ⟨_, List.getElem?_eq_getElem hk⟩

/-- A share is part of the pending work. -/
theorem Sound.share_le (h : srv.Sound) (hk : k < srv.requests.length) :
    srv.loop.share k ≤ srv.loop.pending.count := by
  rw [h.balance]
  exact Finset.single_le_sum (f := srv.loop.share) (fun _ _ => Nat.zero_le _)
    (Finset.mem_range.mpr hk)

/-- A change within one request that keeps the balance keeps the server sound. -/
theorem Sound.within {stage' : Stage} {accepted' : List Deferred.Task} (h : srv.Sound)
    (hk : k < srv.requests.length) (hw : Within k srv srv')
    (hs : srv'.Stands k stage' accepted')
    (hb : srv'.loop.pending.count + srv.loop.share k
      = srv.loop.pending.count + srv'.loop.share k) : srv'.Sound := by
  refine ⟨?_, hw.jobs h.jobs, ?_, ?_, ?_⟩
  · rw [hw.schedulers, hw.requests]
    exact h.schedulers
  · intro n hn
    rw [hw.requests] at hn
    by_cases hnk : n = k
    · subst hnk
      exact ⟨stage', accepted', hs⟩
    · obtain ⟨stage, accepted, hst⟩ := h.stands n hn
      exact ⟨stage, accepted, hst.alike (hw.others n hnk)⟩
  · intro n hn e he
    rw [hw.requests] at hn
    obtain ⟨events, hj, hsilent⟩ := (hw.others n (by omega)).loop.journal
    rw [hj] at he
    rcases List.mem_append.mp he with he | he
    · exact h.silent n hn e he
    · exact hsilent e he
  · have hmem : k ∈ Finset.range srv.requests.length := Finset.mem_range.mpr hk
    have hrest : ∑ n ∈ (Finset.range srv.requests.length).erase k, srv'.loop.share n
        = ∑ n ∈ (Finset.range srv.requests.length).erase k, srv.loop.share n := by
      refine Finset.sum_congr rfl ?_
      intro n hn
      exact (hw.others n (Finset.ne_of_mem_erase hn)).loop.share
    have hold := h.balance
    rw [← Finset.add_sum_erase _ _ hmem] at hold
    rw [hw.requests, ← Finset.add_sum_erase _ _ hmem, hrest]
    omega

end Server
end EdgeRender
