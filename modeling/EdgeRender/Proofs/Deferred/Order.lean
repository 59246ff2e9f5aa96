import EdgeRender.Proofs.Deferred.Session

/-! # The order of the tasks

The report of a drain that runs to its end tells of every task that was let in, once and
in the order in which it was let in. While the drain is under way at most one task is in
flight. What is registered once a queue is closed is dropped: it is not queued, has no
number and never runs.
-/
namespace EdgeRender.Deferred

theorem Report.order_eq (r : Report) :
    r.order = (r.outcomes.map Outcome.ticket).map Ticket.id := by
  unfold order
  rw [List.map_map]
  rfl

theorem Drain.inFlight_le_one (d : Drain) : d.inFlight ≤ 1 := by
  unfold inFlight
  split
  · exact Nat.zero_le 1
  · exact Nat.le_refl 1
  · exact Nat.le_refl 1
  · exact Nat.le_refl 1

theorem Drain.length_begun (d : Drain) : d.begun.length = d.outcomes.length + d.inFlight := by
  rw [begun, List.length_append, List.length_map, length_ticket?]

namespace Session

variable {terms : Terms} {request : Nat} {s t u : Session}

/-- Nothing has changed in what concerns the queue and its tasks. -/
structure Unchanged (request : Nat) (s t : Session) : Prop where
  stage : t.stage = s.stage
  accepted : t.accepted = s.accepted
  queue : t.bench.queue = s.bench.queue
  started : Journal.startedOf request t.bench.journal
    = Journal.startedOf request s.bench.journal

theorem Unchanged.refl (request : Nat) (s : Session) : s.Unchanged request s :=
  ⟨rfl, rfl, rfl, rfl⟩

theorem Unchanged.trans (h : s.Unchanged request t) (h' : t.Unchanged request u) :
    s.Unchanged request u :=
  ⟨h'.stage.trans h.stage, h'.accepted.trans h.accepted, h'.queue.trans h.queue,
    h'.started.trans h.started⟩

theorem discard_of_over {q : Queue} (h : q.closed = true ∧ q.tasks = []) : q.discard = q := by
  obtain ⟨hc, ht⟩ := h
  unfold Queue.discard
  rw [← hc, ← ht]

/-- After the end nothing changes any more. -/
theorem unchanged_after (h : s.Sound terms.request) (ho : s.stage.isOver = true)
    (happening : Happening) : s.Unchanged terms.request (s.after terms happening) := by
  have hq := h.ended ho
  -- The queue is closed and empty by now, so what would change it finds nothing to change.
  cases happening with
  | register task =>
    have hreg : s.after terms (.register task) = { s with
        bench := s.bench.record [.alert (.registrationDropped task.source)] } := by
      simp only [after, Bench.register_of_closed hq.1, Queue.admitted, hq.1, if_true,
        List.append_nil]
    have hsilent : Journal.Silent terms.request [.alert (.registrationDropped task.source)] :=
      Journal.silent_of_nameless (by simp [Event.request?]) _
    rw [hreg]
    refine ⟨rfl, rfl, rfl, ?_⟩
    show Journal.startedOf _ (s.bench.journal ++ _) = _
    rw [Journal.startedOf_append, Journal.startedOf_of_silent hsilent, List.append_nil]
  | others pending events =>
    have hsilent : Journal.Silent terms.request
        (events.filter (·.request? != some terms.request)) := by
      intro e he
      simpa using (List.mem_filter.mp he).2
    refine ⟨rfl, rfl, rfl, ?_⟩
    show Journal.startedOf _ (s.bench.journal ++ _) = _
    rw [Journal.startedOf_append, Journal.startedOf_of_silent hsilent, List.append_nil]
  | begin | step | cancel =>
    cases hs : s.stage with
    | waiting | draining =>
      rw [hs] at ho
      cases ho
    | _ =>
      simp only [after, hs]
      exact .refl _ s
  | discard =>
    cases hs : s.stage with
    | waiting | draining =>
      rw [hs] at ho
      cases ho
    | _ =>
      simp only [after, hs]
      exact ⟨hs.symm, rfl, discard_of_over hq, rfl⟩

theorem unchanged_play (h : s.Sound terms.request) (ho : s.stage.isOver = true)
    (hs : List Happening) : s.Unchanged terms.request (s.play terms hs) := by
  induction hs generalizing s with
  | nil => exact .refl _ s
  | cons happening hs ih =>
    have hu := unchanged_after h ho happening
    refine hu.trans (ih (sound_after h happening) ?_)
    rw [hu.stage]
    exact ho

/-- Numbers that begin like the natural numbers are the first of these. -/
theorem eq_range_of_prefix {xs : List Nat} {n : Nat} (h : xs <+: List.range n) :
    xs = List.range xs.length := by
  have hle : xs.length ≤ n := by simpa using h.length_le
  have htake := List.prefix_iff_eq_take.mp h
  rw [List.take_range, Nat.min_eq_left hle] at htake
  exact htake

/-- The tasks that were taken up are the first ones that were let in, in order. -/
theorem Sound.map_id_begun (h : s.Sound request) :
    s.stage.begun.map Ticket.id = List.range s.stage.begun.length := by
  have hids := h.inOrder.map Ticket.id
  rw [map_id_ticketsOf] at hids
  simpa using eq_range_of_prefix hids

/-- How far a drain has come while it is under way: the tasks that ended are the first
ones that were let in, in order, and the one in flight is the next. -/
theorem Sound.order_of_draining (h : s.Sound request) {d : Drain}
    (hd : s.stage = .draining d) :
    d.report.order = List.range d.outcomes.length ∧
      Journal.startedOf request s.bench.journal
        = List.range (d.outcomes.length + d.inFlight) := by
  have hids := h.map_id_begun
  have htold := h.told
  rw [hd] at hids htold
  have hstarted : d.begun.map Ticket.id = List.range (d.outcomes.length + d.inFlight) := by
    rw [← d.length_begun]
    exact hids
  refine ⟨?_, htold.trans hstarted⟩
  have hfirst : d.report.order <+: List.range (d.outcomes.length + d.inFlight) := by
    rw [← hstarted, Report.order_eq, Drain.begun, List.map_append]
    exact List.prefix_append _ _
  have hlen : d.report.order.length = d.outcomes.length := List.length_map _
  rw [← hlen]
  exact eq_range_of_prefix hfirst

/-- What a report says of the tasks that were let in. -/
theorem Sound.tickets_of_reported (h : s.Sound request) {r : Report}
    (hr : s.stage = .reported r) : r.outcomes.map Outcome.ticket = ticketsOf s.accepted := by
  have hall := h.complete r hr
  rw [hr] at hall
  exact hall

/-- A drain that runs to its end executes every task that was let in, once, one at a time
and in the order of acceptance, however its tasks end. Nothing that is registered later
is queued, numbered or run. The numbers are natural numbers; none exceeds the number of
registrations. A turn that the drain is given on the way, as the event loop gives it, is one
way in which things may go on. -/
theorem order_of_report {s₀ : Session} (hnew : s₀.IsNew terms.request) (hs : List Happening)
    {r : Report} (hr : (s₀.play terms hs).stage = .reported r) :
    let s := s₀.play terms hs
    let n := s.accepted.length
    r.order = List.range n ∧ r.executed = n ∧ r.succeeded + r.failed = n ∧
      r.outcomes.map Outcome.ticket = ticketsOf s.accepted ∧
      Journal.startedOf terms.request s.bench.journal = List.range n ∧
      (∀ ks, ks <+: hs → ∀ d, (s₀.play terms ks).stage = .draining d →
        d.inFlight ≤ 1 ∧ d.report.order = List.range d.outcomes.length ∧
        Journal.startedOf terms.request (s₀.play terms ks).bench.journal
          = List.range (d.outcomes.length + d.inFlight)) ∧
      s.bench.queue = ⟨[], n, true⟩ ∧
      (∀ ks, s.Unchanged terms.request (s.play terms ks)) ∧
      ∀ ks d, (s₀.play terms ks).stage = .draining d → ∀ now room, ∃ more,
        (s₀.play terms (ks ++ more)).bench = (burst terms now room (s₀.play terms ks).bench d).1 ∧
        (s₀.play terms (ks ++ more)).stage
          = .ofTurn (burst terms now room (s₀.play terms ks).bench d).2 := by
  intro s n
  have hsound : s.Sound terms.request := sound_play hnew.sound hs
  have hover : s.stage.isOver = true := by
    rw [hr]
    rfl
  have htickets := hsound.tickets_of_reported hr
  have horder : r.order = List.range n := by
    rw [Report.order_eq, htickets, map_id_ticketsOf]
  have hcount : r.executed = n := by
    have hlen := congrArg List.length horder
    rw [List.length_range] at hlen
    simpa [Report.order, Report.executed] using hlen
  -- What every session keeps gives all but the last part: a turn of the drain is more of a session.
  refine ⟨horder, hcount, r.succeeded_add_failed.trans hcount, htickets, ?_, ?_, ?_, ?_, ?_⟩
  · rw [hsound.told, hr]
    show (r.outcomes.map Outcome.ticket).map Ticket.id = _
    rw [← Report.order_eq, horder]
  · intro ks _ d hd
    obtain ⟨hended, hstarted⟩ := (sound_play hnew.sound ks).order_of_draining hd
    exact ⟨d.inFlight_le_one, hended, hstarted⟩
  · exact hsound.queue_of_isOver hover
  · exact unchanged_play hsound hover
  · intro ks d hd now room
    obtain ⟨more, hbench, hstage⟩ := exists_play_of_burst terms now room hd
    rw [← play_append] at hbench hstage
    exact ⟨more, hbench, hstage⟩

/-- Tasks that end in every way: the first one registers another before it sleeps and
returns, one panics when it runs and one overstays; the registered one panics before it
runs. While the first one sleeps somebody registers a task that fails, and after the end
one that comes too late. -/
def mixedRun : List Happening :=
  [.register (.make "a" none [.register (.make "d" none [.panic .other] [])] [.sleep 3]),
    .register (.make "b" none [] [.effect (.panic (.text "broken"))]),
    .register (.make "c" (some "slow") [] [.sleep 100]),
    .begin] ++
  List.replicate 4 (.step 0 allowance true) ++
  [.register (.make "e" none [] [.fail ["refused"]])] ++
  List.replicate 16 (.step 3 allowance true) ++
  List.replicate 16 (.step 20 allowance true) ++
  [.register (.make "f" none [] [])]

def mixedTerms : Terms :=
  { request := 0, logger := { requestId := ⟨"mixed"⟩ }, limit := ⟨0, 5000000, by decide⟩ }

theorem order_of_report_mixedRun :
    ∃ r, (play mixedTerms ⟨{}, .waiting, []⟩ mixedRun).stage = .reported r ∧
      r.order = List.range 5 ∧ r.succeeded = 1 ∧ r.failed = 4 := by
  have hnew : IsNew mixedTerms.request ⟨{}, .waiting, []⟩ := ⟨rfl, rfl, rfl, rfl⟩
  refine ⟨_, rfl, ?_, rfl, rfl⟩
  exact (order_of_report hnew mixedRun rfl).1

end Session
end EdgeRender.Deferred
