import EdgeRender.Proofs.Deferred.Settling
import EdgeRender.Proofs.Deferred.Simulation

/-! # What a turn depends on

What a drain does next follows from its queue, from what it is about to do, from its time
limit and from the time. The work pending in all requests and the journal are written to and
never looked at, except by a task that leaves a note of what it sees. So a drain goes on
alike wherever its queue is, and no fetch is handed over in its turns. The turns of others
leave a request alone.
-/
namespace EdgeRender

namespace Deferred

open Journal

@[simp] theorem dispatches_failureEvents (terms : Terms) (id : Nat) (source : String)
    (failure : Failure) : dispatches (failureEvents terms id source failure) = [] := by
  simp [failureEvents, dispatches, Event.dispatch?]

/-- What is done on two benches comes to the same: the same queue and the same turn. On
neither a fetch is handed over. -/
structure Like (b c : Bench) (p q : Bench × Turn) : Prop where
  turn : q.2 = p.2
  queue : q.1.queue = p.1.queue
  left : dispatches p.1.journal = dispatches b.journal
  right : dispatches q.1.journal = dispatches c.journal

variable {terms terms' : Terms} {now : Nat} {b c : Bench}

theorem queue_register (h : c.queue = b.queue) (task : Task) :
    (c.register task).queue = (b.register task).queue := by
  unfold Bench.register
  rw [h]
  split
  · rfl
  · exact h

theorem dispatches_register (b : Bench) (task : Task) :
    dispatches (b.register task).journal = dispatches b.journal := by
  unfold Bench.register
  split
  · rfl
  · simp [Bench.record, dispatches, Event.dispatch?]

/-- Two benches with the same queue, and the fetches told of on the one and on the other. -/
def SameQueue (handed handed' : List Fetch.Dispatch) (b c : Bench) : Prop :=
  c.queue = b.queue ∧ dispatches b.journal = handed ∧ dispatches c.journal = handed'

theorem SameQueue.perform {handed handed' : List Fetch.Dispatch} (h : SameQueue handed handed' b c)
    (e : Effect Task) :
    (∃ b' c', b.perform e = .ok b' ∧ c.perform e = .ok c' ∧ SameQueue handed handed' b' c') ∨
      ∃ payload, b.perform e = .error payload ∧ c.perform e = .error payload := by
  obtain ⟨hqueue, hleft, hright⟩ := h
  have hnote : ∀ (b : Bench) (text : String),
      dispatches (b.record [.note text]).journal = dispatches b.journal := by
    intro b text
    simp [Bench.record, dispatches, Event.dispatch?]
  cases e with
  | note text | observe =>
    exact .inl ⟨_, _, rfl, rfl, hqueue, (hnote b _).trans hleft, (hnote c _).trans hright⟩
  | register task =>
    exact .inl ⟨_, _, rfl, rfl, queue_register hqueue task,
      (dispatches_register b task).trans hleft, (dispatches_register c task).trans hright⟩
  | panic payload => exact .inr ⟨payload, rfl, rfl⟩

/-- A drain writes of no fetch that is handed over. -/
theorem simulation_sameQueue (hl : terms'.limit = terms.limit)
    (handed handed' : List Fetch.Dispatch) :
    Simulation terms terms' (SameQueue handed handed') where
  limit := hl
  queue h := h.1
  perform := SameQueue.perform
  closed := fun ⟨_, hleft, hright⟩ _ => ⟨rfl, hleft, hright⟩
  taken := by
    rintro b c ⟨-, hleft, hright⟩ queue id
    refine ⟨rfl, Eq.trans ?_ hleft, Eq.trans ?_ hright⟩
    all_goals simp [Bench.record, dispatches, Event.dispatch?]
  ended := by
    rintro b c ⟨hqueue, hleft, hright⟩ d id source label failure
    refine ⟨hqueue, Eq.trans ?_ hleft, Eq.trans ?_ hright⟩
    all_goals cases failure <;> simp [conclude, Bench.record]

/-- A step of a drain comes to the same on all benches with the same queue. -/
theorem step_like (h : c.queue = b.queue) (hl : terms'.limit = terms.limit) (now : Nat)
    (d : Drain) : Like b c (step terms now b d) (step terms' now c d) := by
  obtain ⟨hturn, hqueue, hleft, hright⟩ :=
    (simulation_sameQueue hl _ _).step ⟨h, rfl, rfl⟩ now d
  exact ⟨hturn, hqueue, hleft, hright⟩

/-! ## What becomes of a job -/

/-- A drain as a job, without the number of its request and the time for which it is due. -/
def DrainJob.core (d : DrainJob) : DrainJob :=
  { d with request := 0, due := 0 }

namespace Job

def core : Job → Job
  | .drain d => .drain d.core
  | .acquire due => .acquire due
  | .release due n => .release due n
  | .over ending => .over ending

def drain? : Job → Option DrainJob
  | .drain d => some d
  | .acquire _ | .release .. | .over _ => none

def ending? : Job → Option Ending
  | .over ending => some ending
  | .acquire _ | .release .. | .drain _ => none

end Job

namespace EventLoop

/-- What becomes of the job of a drain that has had a turn. -/
def jobAfter (l : EventLoop) (d : DrainJob) : Turn → Job
  | .finished drain => .over (l.conclude d drain.report).1
  | .givenUp _ => .over .done
  | .waiting time drain => .drain { d with drain, due := time }
  | .go drain | .paused drain => .drain { d with drain, due := l.now }

theorem settle_eq (l : EventLoop) (j : Nat) (d : DrainJob) (turn : Turn) :
    ∃ events, dispatches events = [] ∧
      (l.settle j d turn).2 = (l.record events).putJob j (l.jobAfter d turn) := by
  have hl : l = l.record [] := l.record_nil.symm
  cases turn with
  | finished e =>
    have hc : ∃ events, dispatches events = [] ∧ (l.conclude d e.report).2 = l.record events := by
      unfold conclude
      cases d.hook with
      | nothing | panic => exact ⟨[], rfl, hl⟩
      | tell | observe => exact ⟨_, rfl, rfl⟩
    obtain ⟨events, hn, hc⟩ := hc
    refine ⟨events, hn, ?_⟩
    rw [← hc]
    rfl
  | givenUp | waiting | go | paused =>
    refine ⟨[], rfl, ?_⟩
    rw [← hl]
    rfl

/-- The number of the request and the time make no difference. -/
theorem core_jobAfter {l l' : EventLoop} {d d' : DrainJob} (h : d'.core = d.core) (turn : Turn) :
    (l'.jobAfter d' turn).core = (l.jobAfter d turn).core := by
  obtain ⟨request, hook, name, drain, due⟩ := d
  obtain ⟨request', hook', name', drain', due'⟩ := d'
  obtain ⟨-, rfl, rfl, rfl, -⟩ := DrainJob.mk.inj h
  cases turn with
  | finished e =>
    unfold jobAfter conclude
    cases hook' <;> rfl
  | givenUp | waiting | go | paused => rfl

theorem drainOf?_jobAfter_of_ne (l : EventLoop) {d : DrainJob} (turn : Turn) {n : Nat}
    (hn : n ≠ d.request) : (l.jobAfter d turn).drainOf? n = none := by
  cases turn with
  | finished | givenUp => rfl
  | waiting | go | paused => exact Job.drainOf?_of_ne (Ne.symm hn)

theorem core_drainOf?_jobAfter (l : EventLoop) (d : DrainJob) (turn : Turn) :
    ((l.jobAfter d turn).drainOf? d.request).map DrainJob.core
      = (l.jobAfter d turn).core.drain? := by
  have hself : ∀ (drain : Drain) (due : Nat),
      (Job.drain { d with drain, due }).drainOf? d.request = some { d with drain, due } :=
    fun _ _ => Job.drainOf?_self _
  cases turn with
  | finished | givenUp => rfl
  | waiting time e => exact congrArg (Option.map DrainJob.core) (hself e time)
  | go e | paused e => exact congrArg (Option.map DrainJob.core) (hself e l.now)

theorem bind_ending? (l : EventLoop) (j : Option Nat) :
    j.bind l.ending? = (j.map l.ending?).join := by
  cases j <;> rfl

theorem ending?_putJob {l : EventLoop} {j : Nat} (hj : j < l.jobs.length) (job : Job) :
    (l.putJob j job).ending? j = job.core.ending? := by
  have hset : (l.putJob j job).jobs[j]? = some job := List.getElem?_set_self hj
  unfold ending?
  rw [hset]
  cases job <;> rfl

/-- A report that has been waited for is the end of the job. -/
theorem ending?_of_join {l : EventLoop} {j : Nat} {report : Report}
    (h : (l.join j).1 = some report) : (l.join j).2.ending? j = some (.reported report) := by
  obtain ⟨ending, m, hw⟩ : ∃ ending m, l.wait (lookEnding j) () = (ending, m) := ⟨_, _, rfl⟩
  have ha : l.await j = (ending.getD .done, m) := by
    unfold await
    rw [hw]
  cases ending with
  | none =>
    unfold join at h
    rw [ha] at h
    cases h
  | some ending =>
    obtain ⟨l', s, hlook⟩ := look_of_waitFrom hw
    unfold lookEnding at hlook
    split at hlook
    · cases hlook
    · split at hlook
      · next e he =>
        obtain ⟨hover, rfl⟩ := Prod.mk.inj hlook
        obtain rfl := Look.over.inj hover
        unfold join at h ⊢
        rw [ha] at h ⊢
        cases e with
        | reported r =>
          obtain rfl := Option.some.inj h
          exact he
        | done | lost => cases h
      · cases hlook

/-! ## The job of a drain -/

/-- The drain of a request that is under way, and the number of its job. -/
def drainJob? (l : EventLoop) (request : Nat) : Option (Nat × DrainJob) :=
  l.jobs.zipIdx.findSome? fun (job, j) => (job.drainOf? request).map (j, ·)

variable {l : EventLoop} {request j : Nat} {d : DrainJob}

theorem getElem?_of_drainJob? (h : l.drainJob? request = some (j, d)) :
    l.jobs[j]? = some (.drain d) ∧ d.request = request := by
  obtain ⟨⟨job, i⟩, hmem, hjob⟩ := List.exists_of_findSome?_eq_some h
  obtain ⟨e, he, hpair⟩ := Option.map_eq_some_iff.mp hjob
  obtain ⟨rfl, rfl⟩ := Prod.mk.inj hpair
  have hi := List.mem_zipIdx_iff_getElem?.mp hmem
  cases job with
  | drain f =>
    by_cases hf : f.request = request
    · rw [Job.drainOf?, if_pos hf] at he
      obtain rfl := Option.some.inj he
      exact ⟨hi, hf⟩
    · rw [Job.drainOf?, if_neg hf] at he
      cases he
  | _ => cases he

theorem drainJob?_eq_none_iff : l.drainJob? request = none ↔ l.drainsOf request = [] := by
  unfold drainJob? drainsOf
  rw [List.findSome?_eq_none_iff, List.filterMap_eq_nil_iff]
  constructor
  · intro h job hjob
    obtain ⟨i, hi⟩ := List.getElem?_of_mem hjob
    exact Option.map_eq_none_iff.mp (h (job, i) (List.mem_zipIdx_iff_getElem?.mpr hi))
  · intro h p hp
    have hi := List.mem_zipIdx_iff_getElem?.mp hp
    exact Option.map_eq_none_iff.mpr (h p.1 (List.mem_of_getElem? hi))

/-- Where a request has one drain, its job is the only one. -/
theorem eq_of_drainsOf {i : Nat} {e f : DrainJob} (hone : l.drainsOf request = [f])
    (hi : l.jobs[i]? = some (.drain e)) (hj : l.jobs[j]? = some (.drain d))
    (he : e.request = request) (hd : d.request = request) : i = j := by
  by_cases hij : i = j
  · exact hij
  · subst he
    obtain ⟨-, hnone⟩ := drainsOf_putJob (j := .over .done) hi hone
    have hstill : (l.putJob i (.over .done)).jobs[j]? = some (.drain d) :=
      (List.getElem?_set_ne hij).trans hj
    have hmem := mem_drainsOf_of_getElem? hstill
    rw [hd, hnone] at hmem
    cases hmem

theorem drainJob?_of_getElem? {f : DrainJob} (hone : l.drainsOf d.request = [f])
    (hj : l.jobs[j]? = some (.drain d)) : l.drainJob? d.request = some (j, d) := by
  cases h : l.drainJob? d.request with
  | none =>
    rw [drainJob?_eq_none_iff.mp h] at hone
    cases hone
  | some p =>
    obtain ⟨i, e⟩ := p
    obtain ⟨hi, he⟩ := getElem?_of_drainJob? h
    obtain rfl := eq_of_drainsOf hone hi hj he rfl
    obtain rfl := Job.drain.inj (Option.some.inj (hi.symm.trans hj))
    rfl

/-! ## What belongs to one request -/

/-- A step of a drain changes the bench of its request, its job and the journal. -/
theorem stepDrain_eq (l : EventLoop) (j : Nat) (d : DrainJob) (s : Scheduler) (now room : Nat)
    (watched : Bool) : ∃ b turn events, dispatches events = [] ∧
    step (l.termsOf d.request s none) now (l.bench d.request) { d.drain with room, watched }
      = (b, turn) ∧
    l.stepDrain j d s now room watched = ((l.putBench d.request b).record events).putJob j
      ((l.putBench d.request b).jobAfter d turn) := by
  obtain ⟨b, turn, hstep⟩ : ∃ b turn, step (l.termsOf d.request s none) now
      (l.bench d.request) { d.drain with room, watched } = (b, turn) := ⟨_, _, rfl⟩
  obtain ⟨events, hn, hset⟩ := (l.putBench d.request b).settle_eq j d turn
  refine ⟨b, turn, events, hn, hstep, ?_⟩
  simp only [stepDrain, hstep]
  exact hset

/-- What has changed in a loop belongs to one request. -/
structure Touches (k : Nat) (l l' : EventLoop) : Prop where
  scheduler : ∀ n, n ≠ k → l'.schedulers[n]? = l.schedulers[n]?
  drains : ∀ n, n ≠ k → l'.drainsOf n = l.drainsOf n
  /-- No job has changed but a drain of the request. -/
  jobs : ∀ (j : Nat) (job : Job), l.jobs[j]? = some job → job.drainOf? k = none →
    l'.jobs[j]? = some job

namespace Touches

variable {k : Nat} {l l' l'' : EventLoop}

theorem refl (k : Nat) (l : EventLoop) : Touches k l l :=
  ⟨fun _ _ => rfl, fun _ _ => rfl, fun _ _ hj _ => hj⟩

theorem trans (h : Touches k l l') (h' : Touches k l' l'') : Touches k l l'' := by
  refine ⟨?_, ?_, ?_⟩
  · exact fun n hn => (h'.scheduler n hn).trans (h.scheduler n hn)
  · exact fun n hn => (h'.drains n hn).trans (h.drains n hn)
  · exact fun j job hj hd => h'.jobs j job (h.jobs j job hj hd) hd

theorem record (events : List Event) : Touches k l (l.record events) :=
  ⟨fun _ _ => rfl, fun _ _ => rfl, fun _ _ hj _ => hj⟩

theorem putBench (b : Bench) : Touches k l (l.putBench k b) :=
  ⟨fun _ hn => List.getElem?_modify_ne _ _ (Ne.symm hn), fun _ _ => rfl, fun _ _ hj _ => hj⟩

theorem putJob {j : Nat} {d : DrainJob} {job : Job} (hj : l.jobs[j]? = some (.drain d))
    (hd : d.request = k) (hjob : ∀ n, n ≠ k → job.drainOf? n = none) :
    Touches k l (l.putJob j job) := by
  subst hd
  refine ⟨fun _ _ => rfl, fun n hn => ?_, fun i old hi hold => ?_⟩
  · exact drainsOf_putJob_of_eq hj ((hjob n hn).trans (Job.drainOf?_of_ne (Ne.symm hn)).symm)
  · by_cases hij : j = i
    · subst hij
      obtain rfl := Option.some.inj (hj.symm.trans hi)
      rw [Job.drainOf?_self] at hold
      cases hold
    · exact (List.getElem?_set_ne hij).trans hi

theorem startDrain (hook : Hook) (name : String) :
    Touches k l (l.startDrain k hook name).2 := by
  refine ⟨fun _ _ => rfl, fun n hn => ?_, fun i old hi _ => ?_⟩
  · show (l.jobs ++ [_]).filterMap _ = _
    rw [List.filterMap_append]
    simp [drainsOf, Job.drainOf?, Ne.symm hn]
  · obtain ⟨hlt, -⟩ := List.getElem?_eq_some_iff.mp hi
    exact (List.getElem?_append_left hlt).trans hi

end Touches

/-! ## Turns of others -/

/-- A turn of a drain is written down after what has been written before. -/
theorem prefix_of_runBurst {bound : Nat} {w : Bool} {d : Drain} {turn : Turn}
    (hu : terms.giveUpAt = none) (h : runBurst terms now w bound b d = (c, turn)) :
    b.journal <+: c.journal := by
  induction bound generalizing b d with
  | zero =>
    obtain ⟨rfl, -⟩ := Prod.mk.inj h
    exact List.prefix_rfl
  | succ bound ih =>
    have hstep : ∀ {c' turn'}, step terms now b d = (c', turn') → b.journal <+: c'.journal := by
      intro c' turn' hs
      obtain ⟨events, hj, -⟩ := (advances_of_step hs).journal
      exact ⟨events, hj.symm⟩
    unfold runBurst at h
    split at h
    · next hs => exact (hstep hs).trans (ih h)
    · next hs =>
      rw [suspend_of_unlimited hu] at h
      obtain ⟨rfl, -⟩ := Prod.mk.inj h
      exact hstep hs
    · next hs =>
      rw [suspend_of_unlimited hu] at h
      obtain ⟨rfl, -⟩ := Prod.mk.inj h
      exact hstep hs
    · exact hstep h

/-- What others do leaves a request alone, and is written down after what has been written
before. -/
structure Spares (k : Nat) (l m : EventLoop) : Prop where
  scheduler : m.schedulers[k]? = l.schedulers[k]?
  drains : m.drainsOf k = l.drainsOf k
  elapsed : m.elapsedMicros = l.elapsedMicros
  journal : l.journal <+: m.journal

namespace Spares

variable {k : Nat} {l m n : EventLoop}

theorem refl (k : Nat) (l : EventLoop) : Spares k l l :=
  ⟨rfl, rfl, rfl, List.prefix_rfl⟩

theorem trans (h : Spares k l m) (h' : Spares k m n) : Spares k l n :=
  ⟨h'.scheduler.trans h.scheduler, h'.drains.trans h.drains, h'.elapsed.trans h.elapsed,
    h.journal.trans h'.journal⟩

/-- The clock, the line and the allowance belong to no request. -/
theorem of_eq (hs : m.schedulers = l.schedulers) (hj : m.jobs = l.jobs)
    (he : m.elapsedMicros = l.elapsedMicros) (hn : m.journal = l.journal) : Spares k l m := by
  refine ⟨by rw [hs], ?_, he, hn ▸ List.prefix_rfl⟩
  unfold drainsOf
  rw [hj]

theorem runDrain {j : Nat} {d : DrainJob} (hj : l.jobs[j]? = some (.drain d))
    (hd : d.request ≠ k) : Spares k l (l.runDrain j d).2 := by
  have hnone : ∀ job : Job, job.drainOf? k = none →
      job.drainOf? k = (Job.drain d).drainOf? k :=
    fun _ hjob => hjob.trans (Job.drainOf?_of_ne hd).symm
  unfold EventLoop.runDrain turn?
  cases hs : l.schedulers[d.request]? with
  | none => exact ⟨rfl, drainsOf_putJob_of_eq hj (hnone _ rfl), rfl, List.prefix_rfl⟩
  | some s =>
    obtain ⟨b, turn, hb⟩ : ∃ b turn, burst (l.termsOf d.request s none) l.now allowance
        (l.bench d.request) d.drain = (b, turn) := ⟨_, _, rfl⟩
    obtain ⟨events, -, hset⟩ := (l.putBench d.request b).settle_eq j d turn
    simp only [Option.map_some, hb, hset]
    have hjournal : l.journal <+: b.journal := prefix_of_runBurst rfl hb
    refine ⟨?_, drainsOf_putJob_of_eq hj (hnone _ ?_), rfl,
      hjournal.trans (List.prefix_append _ events)⟩
    · exact List.getElem?_modify_ne _ _ hd
    · exact drainOf?_jobAfter_of_ne _ turn (Ne.symm hd)

/-- A job that is no drain of a request leaves the request alone. -/
theorem runJob (h : l.drainsOf k = []) (j : Nat) : Spares k l (l.runJob j).2 := by
  unfold EventLoop.runJob
  split
  · next due hj =>
    split
    · exact ⟨rfl, drainsOf_putJob_of_eq hj rfl, rfl, List.prefix_rfl⟩
    · exact .refl k l
  · next due n hj =>
    split
    · exact ⟨rfl, drainsOf_putJob_of_eq hj rfl, rfl, List.prefix_rfl⟩
    · exact .refl k l
  · next d hj =>
    have hd : d.request ≠ k := by
      rintro rfl
      have hmem := mem_drainsOf_of_getElem? hj
      rw [h] at hmem
      cases hmem
    split
    · exact runDrain hj hd
    · exact .refl k l
  · exact .refl k l
  · exact .refl k l

theorem runTurns (h : l.drainsOf k = []) (aside line : List Nat) :
    Spares k l (EventLoop.runTurns aside line l).2 := by
  induction line generalizing aside l with
  | nil => exact .refl k l
  | cons j line ih =>
    have hj := runJob h j
    unfold EventLoop.runTurns
    split
    · next m hm =>
      rw [hm] at hj
      exact hj.trans (ih (hj.drains.trans h) _)
    · next m hm =>
      rw [hm] at hj
      exact hj.trans (ih (hj.drains.trans h) _)

/-- A round leaves a request alone that is not drained in it. -/
theorem runRound (h : l.drainsOf k = []) : Spares k l l.runRound :=
  (runTurns h [] (l.line.take roundSize)).trans (.of_eq rfl rfl rfl rfl)

end Spares

end EventLoop
end Deferred
end EdgeRender
