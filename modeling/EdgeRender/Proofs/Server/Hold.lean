import EdgeRender.Proofs.Deferred.Pacing
import EdgeRender.Proofs.Server.Jobs
import EdgeRender.Proofs.Server.Phases

/-! # Holding termination

An ephemeral host is held up until no work is pending, and the count of pending work is
all that it looks at. When it is let go, the drain of the request has nothing left to run;
but a drain ends only with the step that finds its queue empty, and that step is not
counted. So there are drains that have not closed their queue when the host is let go. With
whole turns they are those that have had no turn at all, and of them nothing was ever
registered.
-/
namespace EdgeRender

open EdgeRender.Deferred

namespace Server

variable {σ : Type} {srv₀ srv srv' : Server σ} {k j : Nat} {stage : Stage}
  {accepted : List Deferred.Task}

/-- Nothing is left of the tasks of a request, and nothing comes: its queue is closed, and
no task of it begins any more. -/
structure Final (k : Nat) (srv : Server σ) : Prop where
  queue : (srv.loop.queue k).tasks = [] ∧ (srv.loop.queue k).closed = true
  kept : ∀ srv', srv.Reaches EventLoop.Stepped srv' →
    srv'.loop.queue k = srv.loop.queue k ∧
      Journal.startedOf k srv'.loop.journal = Journal.startedOf k srv.loop.journal

/-- The drain of a request has run to its end and its hook has been called. -/
structure Completed (k j : Nat) (srv : Server σ) : Prop where
  final : Final k srv
  /-- Its report tells of every task that was let in. -/
  report : ∃ r, srv.loop.ending? j = some (.reported r) ∧
    r.order = List.range (srv.loop.queue k).nextId
  started : Journal.startedOf k srv.loop.journal = List.range (srv.loop.queue k).nextId
  told : srv.observed = true → Phase.drained ∈ Journal.phasesOf k srv.loop.journal

/-- The drain of a request has been dropped on the way. -/
structure Cancelled (k j : Nat) (srv : Server σ) : Prop where
  final : Final k srv
  ending : srv.loop.ending? j = some .done

/-- The drain of a request has run all tasks that were let in, but has not found its queue
empty yet. -/
structure Unclosed (k j : Nat) (srv : Server σ) : Prop where
  drain : ∃ d, srv.loop.jobs[j]? = some (.drain d) ∧ d.request = k ∧ d.drain.inFlight = 0 ∧
    d.drain.report.order = List.range (srv.loop.queue k).nextId
  queue : (srv.loop.queue k).tasks = [] ∧ (srv.loop.queue k).closed = false
  untold : srv.observed = true → Phase.drained ∉ Journal.phasesOf k srv.loop.journal
  /-- A task that is registered now still gets in. -/
  accepts : ∀ task, (srv.register k task).loop.queued k = 1
  /-- All that is missing is one step. -/
  closes : ∀ d s now room watched, srv.loop.jobs[j]? = some (.drain d) →
    srv.loop.schedulers[k]? = some s →
      Completed k j { srv with loop := srv.loop.stepDrain j d s now room watched }

/-- The job has not had a turn yet. -/
def Untouched (j : Nat) (srv : Server σ) : Prop :=
  ∃ d, srv.loop.jobs[j]? = some (.drain d) ∧ d.drain = {}

theorem Stands.final (h : srv.Stands k stage accepted) (hs : srv.Sound)
    (ho : stage.isOver = true) : Final k srv := by
  obtain ⟨hclosed, htasks⟩ := h.sound.ended ho
  refine ⟨⟨htasks, hclosed⟩, ?_⟩
  intro srv' hreach
  have h' := h.ended_of_reaches hs ho hreach
  have hq := h.sound.queue_of_isOver ho
  have hq' := h'.sound.queue_of_isOver ho
  exact ⟨hq'.trans hq.symm, h'.sound.told.trans h.sound.told.symm⟩

theorem ending?_of_over {ending : Ending} (hj : srv.loop.jobs[j]? = some (.over ending)) :
    srv.loop.ending? j = some ending := by
  unfold EventLoop.ending?
  rw [hj]

theorem completed_of_reported {r : Report} (h : srv.Stands k (.reported r) accepted)
    (hs : srv.Sound) (hj : srv.loop.jobs[j]? = some (.over (.reported r))) :
    Completed k j srv := by
  obtain ⟨hdrained, horder⟩ := h.drained
  refine ⟨h.final hs rfl, ⟨r, ending?_of_over hj, horder⟩, hdrained.started, ?_⟩
  intro ho
  exact (drained_of_tells (h.phases ho)).mpr ⟨r, rfl⟩

/-- A drain with nothing in flight, whose queue is empty, ends with its next step. -/
theorem completed_of_step {d : DrainJob} {s : Scheduler} (now room : Nat) (watched : Bool)
    (h : srv.Stands d.request stage accepted) (hs : srv.Sound)
    (hj : srv.loop.jobs[j]? = some (.drain d)) (hf : d.drain.inFlight = 0)
    (hq : (srv.loop.queue d.request).tasks = [])
    (hsched : srv.loop.schedulers[d.request]? = some s) :
    Completed d.request j { srv with loop := srv.loop.stepDrain j d s now room watched } := by
  have hsound := (effect_stepped hs now room watched hj hsched).sound hs
  obtain ⟨b, turn, events₁, events₂, job, hstep, hl⟩ :=
    srv.loop.exists_stepDrain j d s now room watched
  have hnext := h.stepped hj hsched hstep
  have hshows := hstep.settles.shows (hs.hook_isSafe hj)
  have hfinished : ∃ e, turn = .finished e := by
    have hnot : d.drain.inFlight ≠ 1 := by omega
    cases hstep.advances with
    | closed => exact ⟨_, rfl⟩
    | taken hi hne =>
      have hnone : (srv.loop.queue d.request).tasks = _ := hne
      rw [hq] at hnone
      cases hnone
    | registered _ hone | noted _ hone | rested _ hone => exact absurd hone hnot
    | concluded _ ht =>
      have hone : d.drain.inFlight = 1 := Drain.inFlight_of_ticket? ht
      exact absurd hone hnot
  obtain ⟨e, rfl⟩ := hfinished
  rw [hl] at hsound ⊢
  have hjob : ((srv.loop.putBench d.request b).record events₂ |>.putJob j job).jobs[j]?
      = some job := List.getElem?_set_self (List.getElem?_eq_some_iff.mp hj).1
  cases hshows with
  | reported => exact completed_of_reported hnext hsound hjob

/-- A drain with nothing in flight and an empty queue has run all its tasks. -/
theorem unclosed_of_draining {d : DrainJob} (h : srv.Stands d.request stage accepted)
    (hs : srv.Sound) (hj : srv.loop.jobs[j]? = some (.drain d)) (hf : d.drain.inFlight = 0)
    (hq : (srv.loop.queue d.request).tasks = []) : Unclosed d.request j srv := by
  obtain ⟨rfl, -⟩ := h.draining (EventLoop.mem_drainsOf_of_getElem? hj)
  obtain ⟨hopen, hroll⟩ := h.sound.underWay rfl
  have hid : (srv.loop.queue d.request).nextId = accepted.length := h.sound.numbered
  -- Nothing is in flight and nothing is queued, so all that was let in has ended.
  have horder : d.drain.report.order = List.range accepted.length := by
    have htasks : (srv.loop.bench d.request).queue.tasks = [] := hq
    have hidle : d.drain.activity.ticket?.toList = [] := by
      apply List.eq_nil_of_length_eq_zero
      rw [Drain.length_ticket?, hf]
    have hbegun : d.drain.outcomes.map Outcome.ticket = ticketsOf accepted := by
      rw [← hroll, htasks, List.map_nil, List.append_nil]
      show _ = _ ++ d.drain.activity.ticket?.toList
      rw [hidle, List.append_nil]
    rw [Report.order_eq, Drain.report, hbegun, map_id_ticketsOf]
  refine ⟨⟨d, hj, rfl, hf, ?_⟩, ⟨hq, hopen⟩, ?_, ?_, ?_⟩
  · rw [hid]
    exact horder
  · intro ho hdrained
    obtain ⟨r, hr⟩ := (drained_of_tells (h.phases ho)).mp hdrained
    cases hr
  · intro task
    obtain ⟨s, hsched⟩ := hs.scheduler h.lt
    have hbench : (srv.register d.request task).loop.bench d.request
        = (srv.loop.bench d.request).register task := EventLoop.bench_putBench _ hsched
    have hput : (srv.register d.request task).loop.queue d.request
        = ((srv.loop.bench d.request).register task).queue := congrArg Bench.queue hbench
    unfold EventLoop.queued
    rw [hput, Bench.register_of_open hopen]
    show ((srv.loop.queue d.request).tasks ++ [_]).length = 1
    rw [hq]
    rfl
  · intro e s now room watched he hsched
    obtain rfl := Job.drain.inj (Option.some.inj (hj.symm.trans he))
    exact completed_of_step now room watched h hs hj hf hq hsched

/-! ## The pace of a server -/

theorem paced_of_turned (h : srv.Sound) (hp : ∀ job ∈ srv.loop.jobs, job.IsPaced)
    {l : EventLoop} (hl : EventLoop.Turned srv.loop l) : ∀ job ∈ l.jobs, job.IsPaced := by
  cases hl with
  | turned i =>
    by_cases hi : ∀ d, srv.loop.jobs[i]? ≠ some (.drain d)
    · rw [runJob_of_fits h.jobs hi]
      exact hp
    · obtain ⟨d, hd⟩ : ∃ d, srv.loop.jobs[i]? = some (.drain d) := by
        simpa using hi
      obtain ⟨s, hs⟩ := h.scheduler (h.request_lt hd)
      obtain ⟨new, hjobs, hnew⟩ := EventLoop.exists_runDrain i hs (h.hook_isSafe hd)
      unfold EventLoop.runJob
      rw [hd]
      dsimp only
      split
      · intro job hjob
        rw [hjobs] at hjob
        rcases List.mem_or_eq_of_mem_set hjob with hold | rfl
        · exact hp job hold
        · exact hnew
      · exact hp
  | arranged | alerted => exact hp

/-- As long as drains have whole turns, each has had no turn yet, has a task in flight or
has run to its end. -/
theorem paced_of_reaches (hnew : srv₀.IsNew) (hr : srv₀.Reaches EventLoop.Turned srv) :
    ∀ job ∈ srv.loop.jobs, job.IsPaced := by
  induction hr with
  | refl =>
    rw [hnew.jobs]
    exact fun job hjob => nomatch hjob
  | @tail a b hab hn ih =>
    have hsound := sound_of_reaches hnew.sound (Reaches.steps hab)
    cases hn with
    | acted action ha =>
      obtain ⟨new, hjobs, hfresh⟩ := (leavesJobs_act hsound action ha).jobs
      intro job hjob
      rw [hjobs] at hjob
      rcases List.mem_append.mp hjob with hold | hstarted
      · exact ih job hold
      · obtain ⟨d, rfl, hd⟩ := hfresh job hstarted
        exact .inl hd
    | looped hl => exact paced_of_turned hsound ih hl
    | taken | dropped => exact ih

/-! ## When the host is let go -/

/-- The job of a request with nothing queued or in flight is over, or about to be. -/
theorem Attends.idle (ha : srv.Attends k j) (hs : srv.Sound) (hq : srv.loop.queued k = 0)
    (hf : ∀ d ∈ srv.loop.drainsOf k, d.drain.inFlight = 0) :
    Completed k j srv ∨ Cancelled k j srv ∨ Unclosed k j srv := by
  obtain ⟨job, stage, accepted, hj, hshows, hst⟩ := ha
  cases hshows with
  | @draining d hd =>
    subst hd
    have hmem := EventLoop.mem_drainsOf_of_getElem? hj
    have hnone := List.eq_nil_of_length_eq_zero hq
    exact .inr (.inr (unclosed_of_draining hst hs hj (hf d hmem) hnone))
  | reported => exact .inl (completed_of_reported hst hs hj)
  | cancelled => exact .inr (.inl ⟨hst.final hs rfl, ending?_of_over hj⟩)

theorem Untouched.ending? (h : Untouched j srv) : srv.loop.ending? j = none := by
  obtain ⟨d, hd, -⟩ := h
  unfold EventLoop.ending?
  rw [hd]

/-- Of a request whose drain has had no turn nothing was ever registered, if nothing of it is
queued. -/
theorem Unclosed.nextId_eq_zero (h : Unclosed k j srv) (hu : Untouched j srv) :
    (srv.loop.queue k).nextId = 0 := by
  obtain ⟨d, hd, -, -, horder⟩ := h.drain
  obtain ⟨e, he, hfresh⟩ := hu
  obtain rfl := Job.drain.inj (Option.some.inj (hd.symm.trans he))
  have hlen := congrArg List.length horder
  rw [hfresh, List.length_range] at hlen
  exact hlen.symm

/-- With whole turns such a job has run to its end, unless it has had no turn; and it has had
one if anything was registered. -/
theorem completed_of_paced (hp : ∀ job ∈ srv.loop.jobs, job.IsPaced)
    (h : Completed k j srv ∨ Cancelled k j srv ∨ Unclosed k j srv) :
    (Completed k j srv ↔ ¬ Untouched j srv) ∧
      (0 < (srv.loop.queue k).nextId → Completed k j srv) := by
  rcases h with hc | hc | hc
  · have hnot : ¬ Untouched j srv := by
      intro hu
      obtain ⟨r, hr, -⟩ := hc.report
      rw [hu.ending?] at hr
      cases hr
    exact ⟨⟨fun _ => hnot, fun _ => hc⟩, fun _ => hc⟩
  · -- No drain is dropped in whole turns.
    have hending := hc.ending
    unfold EventLoop.ending? at hending
    split at hending
    · next ending hj =>
      obtain rfl := Option.some.inj hending
      exact absurd rfl (hp _ (List.mem_of_getElem? hj))
    · cases hending
  · obtain ⟨d, hd, -, hf, -⟩ := hc.drain
    have hu : Untouched j srv := by
      rcases hp _ (List.mem_of_getElem? hd) with hfresh | hone
      · exact ⟨d, hd, hfresh⟩
      · omega
    have hnot : ¬ Completed k j srv := by
      intro hdone
      have hclosed := hdone.final.queue.2
      rw [hc.queue.2] at hclosed
      cases hclosed
    refine ⟨⟨fun hdone => absurd hdone hnot, fun hno => absurd hu hno⟩, fun hsome => ?_⟩
    rw [hc.nextId_eq_zero hu] at hsome
    exact absurd hsome (Nat.lt_irrefl 0)

/-- The host is told that it may go when it has asked for the job of a request. -/
theorem act_hold_iff {millis : Nat} :
    srv.act (.request k (.hold millis)) = (.held true, srv') ↔
      ∃ r j, srv.request? k = some r ∧ r.drain = some j ∧ srv.hold millis = (true, srv') := by
  show srv.whileDrained k (fun _ _ => (srv.hold millis).map .held id) = _ ↔ _
  unfold whileDrained
  constructor
  · intro hact
    cases hr : srv.request? k with
    | none =>
      rw [hr] at hact
      cases (Prod.mk.inj hact).1
    | some r =>
      rw [hr] at hact
      dsimp only at hact
      cases hd : r.drain with
      | none =>
        rw [hd] at hact
        cases (Prod.mk.inj hact).1
      | some j =>
        rw [hd] at hact
        obtain ⟨hanswer, hsrv⟩ := Prod.mk.inj hact
        exact ⟨r, j, rfl, hd, Prod.ext (Answer.held.inj hanswer) hsrv⟩
  · rintro ⟨r, j, hr, hd, hhold⟩
    rw [hr]
    dsimp only
    rw [hd, hhold]
    rfl

/-- On account of a request the host is told that it may go: when it asks, or when it is
looked at after it has waited for a while. -/
inductive LetGo (k : Nat) (srv : Server σ) : Server σ → Prop
  | asked {srv' : Server σ} {millis : Nat}
      (h : srv.act (.request k (.hold millis)) = (.held true, srv')) : LetGo k srv srv'
  | woken {r : RenderRequest} {j : Nat} {w : Waiter} {l : EventLoop}
      (hr : srv.request? k = some r) (hd : r.drain = some j)
      (h : EventLoop.lookIdle srv.loop w = (.over true, l)) : LetGo k srv { srv with loop := l }

/-- Nothing is pending then, and the request has been handed a job. -/
theorem LetGo.idle (h : LetGo k srv srv') (hhost : srv.config.host = .ephemeral) :
    srv.Reaches EventLoop.Turned srv' ∧ srv'.loop.pending.isIdle = true ∧
      ∃ r j, srv'.request? k = some r ∧ r.drain = some j := by
  cases h with
  | @asked _ millis h =>
    obtain ⟨r, j, hr, hd, hhold⟩ := act_hold_iff.mp h
    have hturns := srv.reaches_hold millis
    rw [hhold] at hturns
    unfold hold EventLoop.holdTermination at hhold
    rw [hhost] at hhold
    obtain ⟨hidle, rfl⟩ := Prod.mk.inj hhold
    exact ⟨hturns, EventLoop.isIdle_of_waitIdle (Prod.ext hidle rfl), r, j, hr, hd⟩
  | @woken r j w l hr hd h =>
    have hturns := reaches_looped srv (EventLoop.turns_lookIdle srv.loop w)
    rw [h] at hturns
    exact ⟨hturns, EventLoop.isIdle_of_lookIdle h, r, j, hr, hd⟩

/-- When an ephemeral host is told that it may go, no task of any request is queued or in
flight, and the drain of the request that was asked about has run to its end, unless it was
dropped or has only to find its queue empty. With whole turns exactly the drains that have
had no turn have not run to their end; if anything was registered, the drain has. -/
theorem hold_of_reaches (hnew : srv₀.IsNew) (hr : srv₀.Reaches EventLoop.Stepped srv)
    (hhost : srv.config.host = .ephemeral) (hgo : LetGo k srv srv') :
    (∀ n < srv'.requests.length,
      srv'.loop.queued n = 0 ∧ ∀ d ∈ srv'.loop.drainsOf n, d.drain.inFlight = 0) ∧
    ∃ r j, srv'.request? k = some r ∧ r.drain = some j ∧
      (Completed k j srv' ∨ Cancelled k j srv' ∨ Unclosed k j srv') ∧
      (srv₀.Reaches EventLoop.Turned srv →
        (Completed k j srv' ↔ ¬ Untouched j srv') ∧
        (0 < (srv'.loop.queue k).nextId → Completed k j srv')) := by
  obtain ⟨hturns, hidle, r, j, hreq, hdrain⟩ := hgo.idle hhost
  have hreach := hr.trans hturns.steps
  have hsound := sound_of_reaches hnew.sound hreach
  have hnone := hsound.balanced.idle.mp hidle
  obtain ⟨hq, hf⟩ := hnone k (lt_of_request? hreq)
  have hattends := attended_of_reaches hnew hreach k r j hreq hdrain
  have hends := hattends.idle hsound hq hf
  refine ⟨hnone, r, j, hreq, hdrain, hends, ?_⟩
  intro hwhole
  exact completed_of_paced (paced_of_reaches hnew (hwhole.trans hturns)) hends

/-- Two tasks, the second one registered by the first, which sleeps. -/
def twoTasks : List Action :=
  let context : RequestContext := { requestId := ⟨"r"⟩, method := .get, path := "/" }
  let task : Deferred.Task := .make "a" none [.register (.make "b" none [] [])] [.sleep 5]
  [.begin context {}, .request 0 (.after task), .request 0 .complete]

theorem hold_twoTasks : ∃ srv srv' : Server Fetch.Catalog,
    srv.act (.request 0 (.hold 1000)) = (.held true, srv') ∧
      ∃ j, Completed 0 j srv' ∧ (srv'.loop.queue 0).nextId = 2 := by
  let start := canned { host := .ephemeral }
  let srv := (start.run twoTasks).2
  have hr := start.reaches_run twoTasks
  have hdrain : ((srv.request? 0).bind (·.drain)) = some 0 := by decide +kernel
  have hidle : (srv.hold 1000).1 = true := by decide +kernel
  obtain ⟨r, hreq, hd⟩ := Option.bind_eq_some_iff.mp hdrain
  have hhold : srv.hold 1000 = (true, (srv.hold 1000).2) := Prod.ext hidle rfl
  have hheld := act_hold_iff.mpr ⟨r, 0, hreq, hd, hhold⟩
  obtain ⟨-, _, j, -, -, -, hwhole⟩ := hold_of_reaches (isNew_canned _) hr.steps rfl (.asked hheld)
  have hsome : ((srv.hold 1000).2.loop.queue 0).nextId = 2 := by decide +kernel
  refine ⟨srv, _, hheld, j, (hwhole hr).2 ?_, hsome⟩
  rw [hsome]
  exact Nat.zero_lt_two

def noTasks : List Action :=
  let context : RequestContext := { requestId := ⟨"r"⟩, method := .get, path := "/" }
  [.begin context {}, .request 0 .complete]

/-- The host is told that it may go before the drain has had a turn: the queue is open, the
observer has not been told, and a task that is registered afterwards runs. -/
theorem hold_noTasks : ∃ srv srv' : Server Fetch.Catalog,
    (canned { host := .ephemeral }).Reaches EventLoop.Turned srv ∧
      srv.config.host = .ephemeral ∧
      srv.act (.request 0 (.hold 1000)) = (.held true, srv') ∧
      (∀ j, ¬ Completed 0 j srv') ∧
      (srv'.loop.queue 0).closed = false ∧
      Phase.drained ∉ Journal.phasesOf 0 srv'.loop.journal ∧
      Journal.startedOf 0 (srv'.run [.request 0 (.register (.make "late" none [] [])),
        .sleep 1]).2.loop.journal = [0] := by
  let start := canned { host := .ephemeral }
  let srv := (start.run noTasks).2
  have hdrain : ((srv.request? 0).bind (·.drain)) = some 0 := by decide +kernel
  have hidle : (srv.hold 1000).1 = true := by decide +kernel
  obtain ⟨r, hreq, hd⟩ := Option.bind_eq_some_iff.mp hdrain
  have hhold : srv.hold 1000 = (true, (srv.hold 1000).2) := Prod.ext hidle rfl
  have hheld := act_hold_iff.mpr ⟨r, 0, hreq, hd, hhold⟩
  have hopen : ((srv.hold 1000).2.loop.queue 0).closed = false := by decide +kernel
  refine ⟨srv, (srv.hold 1000).2, start.reaches_run noTasks, rfl, hheld, ?_, hopen, ?_, ?_⟩
  · intro j hc
    have hclosed := hc.final.queue.2
    rw [hopen] at hclosed
    cases hclosed
  · decide +kernel
  · decide +kernel

end Server
end EdgeRender
