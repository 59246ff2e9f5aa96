import EdgeRender.Proofs.Deferred.Order
import EdgeRender.Proofs.Deferred.Settling

/-! # What becomes of the tasks of a queue

A task that is let in is executed, or cut when its drain is dropped while the task is in
flight, or discarded with the queue. `Session.fates` books what becomes of tasks when
something happens to their queue, and `Session.fatesOf` adds that up over a session. Nothing
is booked twice, and after the end everything that was let in has been booked once.
-/
namespace EdgeRender.Deferred

/-- What has become of tasks, by their numbers. -/
structure Fates where
  /-- Those that have an outcome, whatever it is. -/
  executed : List Nat := []
  /-- Those that were in flight when their drain was dropped. -/
  cut : List Nat := []
  /-- Those that were dropped with the queue. -/
  discarded : List Nat := []
  deriving DecidableEq, Repr

namespace Fates

def and (f g : Fates) : Fates :=
  ⟨f.executed ++ g.executed, f.cut ++ g.cut, f.discarded ++ g.discarded⟩

@[simp] theorem and_none (f : Fates) : f.and {} = f := by
  simp [and]

@[simp] theorem none_and (f : Fates) : Fates.and {} f = f := rfl

theorem and_assoc (f g h : Fates) : (f.and g).and h = f.and (g.and h) := by
  simp [and]

end Fates

def Queue.ids (q : Queue) : List Nat :=
  q.tasks.map (·.id)

def Drain.ids (d : Drain) : List Nat :=
  d.activity.ticket?.toList.map Ticket.id

theorem Drain.map_id_begun (d : Drain) : d.begun.map Ticket.id = d.report.order ++ d.ids := by
  rw [Report.order_eq, Drain.begun, List.map_append]
  rfl

theorem Drain.length_ids (d : Drain) : d.ids.length = d.inFlight := by
  rw [ids, List.length_map, length_ticket?]

theorem Queue.ids_eq (q : Queue) : q.ids = (q.tasks.map Queued.ticket).map Ticket.id := by
  rw [ids, List.map_map]
  rfl

def Stage.ids : Stage → List Nat
  | .draining d => d.ids
  | .waiting | .reported _ | .cancelled _ | .discarded => []

/-- A step takes no outcome back. -/
theorem Advances.outcomes {terms : Terms} {b c : Bench} {d : Drain} {turn : Turn}
    (h : Advances terms b d c turn) : d.outcomes <+: turn.drain.outcomes := by
  cases h with
  | closed hi hq => exact List.prefix_rfl
  | taken hi hq ho ht => exact ⟨[], (List.append_nil _).trans ho.symm⟩
  | registered hr hf hs => exact ⟨[], (List.append_nil _).trans hs.1.symm⟩
  | noted hr hf hs => exact ⟨[], (List.append_nil _).trans hs.1.symm⟩
  | rested hr hf hs hu => exact ⟨[], (List.append_nil _).trans hs.1.symm⟩
  | concluded hr ht hi ho hn => exact ⟨_, ho.symm⟩

namespace Session

variable {terms : Terms} {request : Nat} {s : Session} {f : Fates}

/-- What becomes of tasks when something happens. A step books the task whose outcome is
new; a drain that is dropped books the task in flight and the queue. -/
def fates (terms : Terms) (s : Session) : Happening → Fates
  | .step now room watched =>
    match s.stage with
    | .draining d =>
      let turn := (Deferred.step terms now s.bench { d with room, watched }).2
      { executed := (turn.drain.outcomes.drop d.outcomes.length).map (·.task) }
    | _ => {}
  | .cancel =>
    match s.stage with
    | .draining d => { cut := d.ids, discarded := s.bench.queue.ids }
    | _ => {}
  | .discard =>
    match s.stage with
    | .draining _ => {}
    | _ => { discarded := s.bench.queue.ids }
  | .register _ | .others .. | .begin => {}

/-- What has become of tasks when things have happened one after another. -/
def fatesOf (terms : Terms) (s : Session) : List Happening → Fates
  | [] => {}
  | h :: hs => (s.fates terms h).and ((s.after terms h).fatesOf terms hs)

/-- What has become of the tasks of a queue at each stage. -/
def Booked (s : Session) (f : Fates) : Prop :=
  match s.stage with
  | .waiting => f = {}
  | .draining d => f = { executed := d.report.order }
  | .reported r => f = { executed := r.order }
  | .cancelled begun =>
    f.executed ++ f.cut = begun.map Ticket.id ∧ f.cut.length ≤ 1 ∧
      begun.map Ticket.id ++ f.discarded = List.range s.accepted.length
  | .discarded => f = { discarded := List.range s.accepted.length }

/-- What is booked depends on the stage, and at the end on what was let in. -/
theorem Booked.kept {t : Session} (h : s.Booked f) (hs : t.stage = s.stage)
    (ha : s.stage.isOver = true → t.accepted = s.accepted) : t.Booked f := by
  unfold Booked at h ⊢
  rw [hs]
  cases hst : s.stage with
  | waiting | draining | reported =>
    rw [hst] at h
    exact h
  | cancelled begun =>
    rw [hst] at h ha
    rw [ha rfl]
    exact h
  | discarded =>
    rw [hst] at h ha
    rw [ha rfl]
    exact h

/-- While nothing has been cut or discarded, the tasks let in are those that were taken up
and those in the queue. -/
theorem Sound.map_id_roll (h : s.Sound request) (ho : s.stage.isOver = false) :
    s.stage.begun.map Ticket.id ++ s.bench.queue.ids = List.range s.accepted.length := by
  rw [Queue.ids_eq, ← List.map_append, (h.underWay ho).2, map_id_ticketsOf]

/-- A step books the tasks that have an outcome after it. -/
theorem booked_step (h : s.Booked f) {d : Drain} (hs : s.stage = .draining d)
    (now room : Nat) (watched : Bool) :
    (s.after terms (.step now room watched)).Booked
      (f.and (s.fates terms (.step now room watched))) := by
  obtain ⟨c, turn, hstep⟩ : ∃ c turn, Deferred.step terms now s.bench
      { d with room, watched } = (c, turn) := ⟨_, _, rfl⟩
  have hadv := advances_of_step hstep
  have hf : f = { executed := d.report.order } := by
    simpa only [Booked, hs] using h
  have hall : d.report.order ++ (turn.drain.outcomes.drop d.outcomes.length).map (·.task)
      = turn.drain.report.order := by
    have htake : turn.drain.outcomes.take d.outcomes.length = d.outcomes :=
      (List.prefix_iff_eq_take.mp hadv.outcomes).symm
    have hsplit := List.take_append_drop d.outcomes.length turn.drain.outcomes
    rw [htake] at hsplit
    show d.outcomes.map _ ++ _ = turn.drain.outcomes.map _
    rw [← List.map_append, hsplit]
  have hbooked : f.and (s.fates terms (.step now room watched))
      = { executed := turn.drain.report.order } := by
    simp only [fates, hs, hstep, hf, Fates.and, hall, List.append_nil]
  rw [hbooked]
  simp only [after, hs, hstep, Booked]
  cases turn with
  | givenUp e => exact absurd rfl (hadv.ne_givenUp e)
  | go | paused | waiting | finished => rfl

/-- A drain that is dropped books all that is left. -/
theorem booked_cancel (h : s.Sound terms.request) (hb : s.Booked f) {d : Drain}
    (hs : s.stage = .draining d) :
    (s.after terms .cancel).Booked (f.and (s.fates terms .cancel)) := by
  have hf : f = { executed := d.report.order } := by
    simpa only [Booked, hs] using hb
  have hroll := h.map_id_roll (by rw [hs]; rfl)
  rw [hs] at hroll
  simp only [after, fates, hs, Booked, hf, Fates.and, List.nil_append, List.append_nil]
  refine ⟨d.map_id_begun.symm, ?_, hroll⟩
  rw [d.length_ids]
  exact d.inFlight_le_one

/-- What is booked stays right, whatever happens. -/
theorem booked_after (h : s.Sound terms.request) (hb : s.Booked f) (happening : Happening) :
    (s.after terms happening).Booked (f.and (s.fates terms happening)) := by
  -- After the end nothing is booked any more.
  have hover : s.stage.isOver = true → (s.after terms happening).Booked f := by
    intro ho
    have hu := unchanged_after h ho happening
    exact hb.kept hu.stage fun _ => hu.accepted
  have hempty : s.stage.isOver = true → s.bench.queue.ids = [] := by
    intro ho
    rw [Queue.ids, (h.ended ho).2]
    rfl
  cases happening with
  | register task =>
    rw [fates, Fates.and_none]
    refine hb.kept rfl fun ho => ?_
    show s.accepted ++ s.bench.queue.admitted [task] = s.accepted
    rw [Queue.admitted, (h.ended ho).1, if_pos rfl, List.append_nil]
  | others pending events =>
    rw [fates, Fates.and_none]
    exact hb.kept rfl fun _ => rfl
  | begin =>
    rw [fates, Fates.and_none]
    cases hs : s.stage with
    | waiting =>
      have hf : f = {} := by simpa only [Booked, hs] using hb
      simp only [after, hs, Booked, hf]
      rfl
    | _ => simpa only [after, hs] using hb
  | step now room watched =>
    cases hs : s.stage with
    | draining d => exact booked_step hb hs now room watched
    | _ => simpa only [after, fates, hs, Fates.and_none] using hb
  | cancel =>
    cases hs : s.stage with
    | draining d => exact booked_cancel h hb hs
    | _ => simpa only [after, fates, hs, Fates.and_none] using hb
  | discard =>
    cases hs : s.stage with
    | waiting =>
      have hf : f = {} := by simpa only [Booked, hs] using hb
      have hroll := h.map_id_roll (by rw [hs]; rfl)
      rw [hs] at hroll
      have hids : s.bench.queue.ids = List.range s.accepted.length := hroll
      simp only [after, fates, hs, Booked, hf, hids, Fates.none_and]
    | draining d => simpa only [after, fates, hs, Fates.and_none] using hb
    | reported | cancelled | discarded =>
      have ho : s.stage.isOver = true := by rw [hs]; rfl
      have hnone : s.fates terms .discard = {} := by
        simp only [fates, hs, hempty ho]
      rw [hnone, Fates.and_none]
      exact hover ho

theorem booked_play (h : s.Sound terms.request) (hb : s.Booked f) (hs : List Happening) :
    (s.play terms hs).Booked (f.and (s.fatesOf terms hs)) := by
  induction hs generalizing s f with
  | nil => simpa [fatesOf] using hb
  | cons happening hs ih =>
    have hnext := ih (sound_after h happening) (booked_after h hb happening)
    rw [Fates.and_assoc] at hnext
    exact hnext

/-- Everything that is let in is booked or still to come: the task in flight, and those in
the queue. -/
theorem Booked.partition (hb : s.Booked f) (h : s.Sound request) :
    f.executed ++ f.cut ++ s.stage.ids ++ s.bench.queue.ids ++ f.discarded
      = List.range s.accepted.length := by
  have hempty : s.stage.isOver = true → s.bench.queue.ids = [] := by
    intro ho
    rw [Queue.ids, (h.ended ho).2]
    rfl
  -- Each stage says what was booked; the roll of the session says what is left.
  cases hs : s.stage with
  | waiting =>
    have hf : f = {} := by simpa only [Booked, hs] using hb
    have hroll := h.map_id_roll (by rw [hs]; rfl)
    rw [hs] at hroll
    rw [hf, ← hroll]
    simp [Stage.ids, Stage.begun]
  | draining d =>
    have hf : f = { executed := d.report.order } := by simpa only [Booked, hs] using hb
    have hroll := h.map_id_roll (by rw [hs]; rfl)
    rw [hs] at hroll
    have hbegun : (Stage.draining d).begun.map Ticket.id = d.report.order ++ d.ids :=
      d.map_id_begun
    rw [hf, ← hroll, hbegun]
    simp [Stage.ids]
  | reported r =>
    have hf : f = { executed := r.order } := by simpa only [Booked, hs] using hb
    have horder : r.order = List.range s.accepted.length := by
      rw [Report.order_eq, h.tickets_of_reported hs, map_id_ticketsOf]
    rw [hf, hempty (by rw [hs]; rfl), ← horder]
    simp [Stage.ids]
  | cancelled begun =>
    simp only [Booked, hs] at hb
    obtain ⟨hbegun, -, hrest⟩ := hb
    rw [hempty (by rw [hs]; rfl), hbegun]
    simpa [Stage.ids] using hrest
  | discarded =>
    have hf : f = { discarded := List.range s.accepted.length } := by
      simpa only [Booked, hs] using hb
    rw [hf, hempty (by rw [hs]; rfl)]
    simp [Stage.ids]

/-- Of the tasks whose call has begun each is executed, cut or in flight. -/
theorem Booked.started (hb : s.Booked f) (h : s.Sound request) :
    Journal.startedOf request s.bench.journal = f.executed ++ f.cut ++ s.stage.ids := by
  rw [h.told]
  cases hs : s.stage with
  | waiting =>
    have hf : f = {} := by simpa only [Booked, hs] using hb
    rw [hf]
    rfl
  | draining d =>
    have hf : f = { executed := d.report.order } := by simpa only [Booked, hs] using hb
    rw [hf, List.append_nil]
    exact d.map_id_begun
  | reported r =>
    have hf : f = { executed := r.order } := by simpa only [Booked, hs] using hb
    rw [hf, List.append_nil, Stage.ids, List.append_nil, Report.order_eq]
    rfl
  | cancelled begun =>
    simp only [Booked, hs] at hb
    rw [hb.1, Stage.ids, List.append_nil]
    rfl
  | discarded =>
    have hf : f = { discarded := List.range s.accepted.length } := by
      simpa only [Booked, hs] using hb
    rw [hf]
    rfl

/-- Only the drop of a drain cuts a task, and no more than one. -/
theorem Booked.cut (hb : s.Booked f) :
    f.cut.length ≤ 1 ∧ (f.cut ≠ [] → ∃ begun, s.stage = .cancelled begun) := by
  cases hs : s.stage with
  | cancelled begun =>
    simp only [Booked, hs] at hb
    exact ⟨hb.2.1, fun _ => ⟨begun, rfl⟩⟩
  | _ =>
    simp only [Booked, hs] at hb
    rw [hb]
    exact ⟨Nat.zero_le 1, fun hne => absurd rfl hne⟩

/-- Nothing is discarded before the end. -/
theorem Booked.discarded_of_underWay (hb : s.Booked f) (ho : s.stage.isOver = false) :
    f.discarded = [] := by
  cases hs : s.stage with
  | waiting | draining =>
    simp only [Booked, hs] at hb
    rw [hb]
  | reported | cancelled | discarded =>
    rw [hs] at ho
    cases ho

/-- After the end nothing is booked any more. -/
theorem fatesOf_of_isOver (h : s.Sound terms.request) (ho : s.stage.isOver = true)
    (hs : List Happening) : s.fatesOf terms hs = {} := by
  induction hs generalizing s with
  | nil => rfl
  | cons happening hs ih =>
    have hids : s.bench.queue.ids = [] := by
      rw [Queue.ids, (h.ended ho).2]
      rfl
    have hnone : s.fates terms happening = {} := by
      cases hst : s.stage with
      | waiting | draining =>
        rw [hst] at ho
        cases ho
      | _ => cases happening <;> simp only [fates, hst, hids]
    have hu := unchanged_after h ho happening
    have hrest := ih (sound_after h happening) (by rw [hu.stage]; exact ho)
    rw [fatesOf, hnone, Fates.none_and]
    exact hrest

/-- The account of a session: what has become of its tasks, and what is still to come. -/
structure Accounts (request : Nat) (s : Session) (f : Fates) : Prop where
  /-- The numbers of the tasks let in are those of the tasks executed, cut, in flight, queued
  and discarded, in this order and each once. -/
  partition : f.executed ++ f.cut ++ s.stage.ids ++ s.bench.queue.ids ++ f.discarded
    = List.range s.accepted.length
  /-- No more than one task is cut, and only by the drop of a drain. -/
  cut : f.cut.length ≤ 1 ∧ (f.cut ≠ [] → ∃ begun, s.stage = .cancelled begun)
  /-- The calls that have begun are those of tasks executed, cut or in flight. -/
  started : Journal.startedOf request s.bench.journal = f.executed ++ f.cut ++ s.stage.ids
  /-- The tasks that have an outcome are the executed ones. -/
  outcomes : (∀ d, s.stage = .draining d → d.report.order = f.executed) ∧
    ∀ r, s.stage = .reported r → r.order = f.executed
  /-- Nothing is discarded before the end. -/
  underWay : s.stage.isOver = false → f.discarded = []
  /-- At the end nothing is in flight or queued. -/
  ended : s.stage.isOver = true →
    s.stage.ids = [] ∧ s.bench.queue = ⟨[], s.accepted.length, true⟩

theorem Booked.accounts (hb : s.Booked f) (h : s.Sound request) : s.Accounts request f where
  partition := hb.partition h
  cut := hb.cut
  started := hb.started h
  outcomes := by
    constructor
    · intro d hs
      simp only [Booked, hs] at hb
      rw [hb]
    · intro r hs
      simp only [Booked, hs] at hb
      rw [hb]
  underWay := hb.discarded_of_underWay
  ended := by
    intro ho
    refine ⟨?_, h.queue_of_isOver ho⟩
    cases hs : s.stage with
    | waiting | draining =>
      rw [hs] at ho
      cases ho
    | _ => rfl

/-- In every session the account is right; and after the end nothing is booked any more,
no call begins, and nothing is left to discard. -/
theorem accounts_play {s₀ : Session} (hnew : s₀.IsNew terms.request) (hs : List Happening) :
    let s := s₀.play terms hs
    s.Accounts terms.request (s₀.fatesOf terms hs) ∧
      (s.stage.isOver = true → s.bench.discard.1 = 0 ∧
        ∀ ks, s.fatesOf terms ks = {} ∧ s.Unchanged terms.request (s.play terms ks)) := by
  intro s
  have hsound : s.Sound terms.request := sound_play hnew.sound hs
  have hstart : s₀.Booked {} := by simp only [Booked, hnew.stage]
  have hbooked := booked_play hnew.sound hstart hs
  rw [Fates.none_and] at hbooked
  refine ⟨hbooked.accounts hsound, fun ho => ⟨?_, fun ks => ⟨?_, ?_⟩⟩⟩
  · show s.bench.queue.tasks.length = 0
    rw [(hsound.ended ho).2]
    rfl
  · exact fatesOf_of_isOver hsound ho ks
  · exact unchanged_play hsound ho ks

end Session
end EdgeRender.Deferred
