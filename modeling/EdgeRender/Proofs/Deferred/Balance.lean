import EdgeRender.Proofs.Deferred.Session
import Mathlib.Logic.Function.Iterate

/-! # What a queue has pending

The share of a queue in the pending work is what is queued and what is in flight.
Whatever happens to the queue changes the count of pending work by as much as its share,
and never is more taken off the count than there is.
-/
namespace EdgeRender.Deferred

/-- Amounts that can be taken off one after another, none of which is more than what is
left. -/
def Pending.Covers (p : Pending) : List Nat → Prop
  | [] => True
  | n :: ns => n ≤ p.count ∧ (p.release n).Covers ns

namespace Stage

def inFlight : Stage → Nat
  | .draining d => d.inFlight
  | .waiting | .reported _ | .cancelled _ | .discarded => 0

theorem inFlight_of_isOver {stage : Stage} (h : stage.isOver = true) : stage.inFlight = 0 := by
  cases stage with
  | waiting | draining => cases h
  | _ => rfl

end Stage

theorem Drain.inFlight_of_ticket? {d : Drain} {t : Ticket} (h : d.activity.ticket? = some t) :
    d.inFlight = 1 := by
  rw [← length_ticket?, h]
  rfl

theorem Drain.inFlight_of_idle {d : Drain} (h : d.activity = .idle) : d.inFlight = 0 := by
  unfold inFlight
  rw [h]

/-- What is taken off the count when a drain gets from `d` to `e`: one for an outcome. -/
def Drain.takenOff (d e : Drain) : List Nat :=
  if d.outcomes.length < e.outcomes.length then [1] else []

theorem Drain.takenOff_of_eq {d e : Drain} (h : e.outcomes = d.outcomes) :
    d.takenOff e = [] := by
  unfold takenOff
  rw [h, if_neg (Nat.lt_irrefl _)]

theorem Drain.takenOff_of_concat {d e : Drain} {o : Outcome}
    (h : e.outcomes = d.outcomes ++ [o]) : d.takenOff e = [1] := by
  unfold takenOff
  rw [h, List.length_append, List.length_singleton, if_pos (Nat.lt_succ_self _)]

/-- A step of a drain changes the count by as much as the share. -/
theorem Advances.balance {terms : Terms} {b c : Bench} {d : Drain} {turn : Turn}
    (h : Advances terms b d c turn) (ho : b.queue.closed = false)
    (hs : d.inFlight ≤ b.pending.count) :
    c.pending.count + (b.queue.tasks.length + d.inFlight)
      = b.pending.count + (c.queue.tasks.length + (Stage.ofTurn turn).inFlight) := by
  cases h with
  | closed hi hq =>
    have hf := Drain.inFlight_of_idle hi
    show b.pending.count + (b.queue.tasks.length + d.inFlight) = b.pending.count + (_ + 0)
    rw [hf]
  | taken hi hq he ht =>
    have hf := Drain.inFlight_of_idle hi
    have hg := Drain.inFlight_of_ticket? ht
    simp only [Bench.record, Stage.ofTurn, Stage.inFlight, hq, hf, hg, List.length_cons]
  | registered hr hf hsame =>
    rw [Bench.register_of_open ho]
    simp only [Pending.count_acquire, Stage.ofTurn, Stage.inFlight, hsame.inFlight,
      List.length_append, List.length_singleton]
    omega
  | noted hr hf hsame =>
    simp only [Bench.record, Stage.ofTurn, Stage.inFlight, hsame.inFlight]
  | rested hr hf hsame hu =>
    rw [Stage.ofTurn_of_isUnderWay hu]
    simp only [Stage.inFlight, hsame.inFlight]
  | concluded hr ht hi he hn =>
    have hf := Drain.inFlight_of_ticket? ht
    have hg := Drain.inFlight_of_idle hi
    simp only [Bench.record, Stage.ofTurn, Stage.inFlight, Pending.count_release, hg]
    omega

/-- Does something happen to the queue itself? -/
def Happening.isOwn : Happening → Bool
  | .others .. => false
  | .register _ | .begin | .step .. | .cancel | .discard => true

namespace Session

variable {terms : Terms} {s : Session}

/-- The pending work on account of a queue. -/
def share (s : Session) : Nat :=
  s.bench.queue.tasks.length + s.stage.inFlight

/-- What is taken off the count when something happens: one for a task that ends, the
task in flight and the queue for a drain that is dropped, and the queue for one that is
discarded. -/
def releases (terms : Terms) (s : Session) : Happening → List Nat
  | .step now room watched =>
    match s.stage with
    | .draining d =>
      d.takenOff (Deferred.step terms now s.bench { d with room, watched }).2.drain
    | _ => []
  | .cancel =>
    match s.stage with
    | .draining d => [d.inFlight, s.bench.queue.tasks.length]
    | _ => []
  | .discard =>
    match s.stage with
    | .draining _ => []
    | _ => [s.bench.queue.tasks.length]
  | .register _ | .others .. | .begin => []

theorem Sound.open_of_draining {request : Nat} (h : s.Sound request) {d : Drain}
    (hd : s.stage = .draining d) : s.bench.queue.closed = false := by
  rw [h.closed_eq, hd]
  rfl

theorem pending_discard (b : Bench) :
    b.discard.2.pending = b.pending.release b.queue.tasks.length := rfl

theorem pending_giveUp (b : Bench) (d : Drain) :
    (giveUp b d).pending
      = (b.pending.release d.inFlight).release b.queue.tasks.length := rfl

/-- Whatever happens to the queue changes the count by as much as its share. -/
theorem balance_after (h : s.Sound terms.request) (hs : s.share ≤ s.bench.pending.count)
    (happening : Happening) (hown : happening.isOwn = true) :
    (s.after terms happening).bench.pending.count + s.share
      = s.bench.pending.count + (s.after terms happening).share := by
  -- The share of the queue is queued and in flight, so only what happens to these moves the count.
  cases happening with
  | register task =>
    cases hc : s.bench.queue.closed with
    | true =>
      simp only [after, Bench.register_of_closed hc]
      rfl
    | false =>
      simp only [after, Bench.register_of_open hc, share, Pending.count_acquire,
        List.length_append, List.length_singleton]
      omega
  | others => cases hown
  | begin =>
    cases hst : s.stage with
    | waiting => simp only [after, hst, share, Stage.inFlight]; rfl
    | _ => simp only [after, hst]
  | step now room watched =>
    cases hst : s.stage with
    | draining d =>
      obtain ⟨c, turn, hstep⟩ : ∃ c turn, Deferred.step terms now s.bench
          { d with room, watched } = (c, turn) := ⟨_, _, rfl⟩
      have hle : d.inFlight ≤ s.bench.pending.count := by
        have hsum := hs
        simp only [share, hst, Stage.inFlight] at hsum
        omega
      have hbal := (advances_of_step hstep).balance (h.open_of_draining hst) hle
      simp only [after, hst, hstep, share]
      exact hbal
    | _ => simp only [after, hst]
  | cancel =>
    cases hst : s.stage with
    | draining d =>
      simp only [share, hst, Stage.inFlight] at hs
      simp only [after, hst, share, Stage.inFlight, pending_giveUp, Pending.count_release]
      show _ = s.bench.pending.count + (0 + 0)
      omega
    | _ => simp only [after, hst]
  | discard =>
    simp only [share] at hs
    have hcount : s.bench.discard.2.pending.count
        = s.bench.pending.count - s.bench.queue.tasks.length := Pending.count_release _ _
    cases hst : s.stage with
    | draining d => simp only [after, hst]
    | waiting =>
      simp only [after, hst, share, hcount, Stage.inFlight]
      show _ = s.bench.pending.count + (0 + 0)
      omega
    | _ =>
      simp only [after, hst, share, hcount, Stage.inFlight]
      show _ = s.bench.pending.count + (0 + 0)
      omega

/-- How a step of a drain changes the pending work: by what it takes on and by what it
takes off. -/
theorem pending_of_advances {b c : Bench} {d : Drain} {turn : Turn}
    (h : Advances terms b d c turn) :
    c.pending = (d.takenOff turn.drain).foldl Pending.release
        (Pending.acquire^[(b.queue.admitted d.registers?.toList).length] b.pending) := by
  have hnone : d.registers? = none → (b.queue.admitted d.registers?.toList).length = 0 := by
    intro hr
    simp [hr, Queue.admitted]
  -- Only a registration takes work on, and only an outcome takes work off.
  cases h with
  | closed hi hq =>
    have ht : d.takenOff (Turn.finished d).drain = [] := Drain.takenOff_of_eq rfl
    rw [ht, hnone (Drain.registers?_of_idle hi)]
    rfl
  | @taken t ts e hi hq he ht =>
    have ht : d.takenOff (Turn.go e).drain = [] := Drain.takenOff_of_eq he
    rw [ht, hnone (Drain.registers?_of_idle hi)]
    rfl
  | @registered task e hr hf hs =>
    have ht : d.takenOff (Turn.go e).drain = [] := Drain.takenOff_of_eq hs.1
    rw [ht, hr]
    cases hc : b.queue.closed with
    | true =>
      rw [Bench.register_of_closed hc]
      simp [Queue.admitted, hc, Bench.record]
    | false =>
      rw [Bench.register_of_open hc]
      simp [Queue.admitted, hc]
  | @noted text e hr hf hs =>
    have ht : d.takenOff (Turn.go e).drain = [] := Drain.takenOff_of_eq hs.1
    rw [ht, hnone hr]
    rfl
  | rested hr hf hs hu =>
    rw [Drain.takenOff_of_eq hs.1, hnone hr]
    rfl
  | @concluded o events e hr ht hi he hn =>
    have ht : d.takenOff (Turn.go e).drain = [1] := Drain.takenOff_of_concat he
    rw [ht, hnone hr]
    rfl

/-- Whatever happens to the queue changes the pending work by one for every task that is
let in, and then by `releases`. -/
theorem pending_after (happening : Happening) (hown : happening.isOwn = true) :
    (s.after terms happening).bench.pending
      = (s.releases terms happening).foldl Pending.release
        (Pending.acquire^[(s.after terms happening).accepted.length - s.accepted.length]
          s.bench.pending) := by
  cases happening with
  | register task =>
    cases hc : s.bench.queue.closed with
    | true => simp [after, releases, Bench.register_of_closed hc, Queue.admitted, hc, Bench.record]
    | false => simp [after, releases, Bench.register_of_open hc, Queue.admitted, hc]
  | others => cases hown
  | begin => cases hst : s.stage <;> simp [after, releases, hst]
  | step now room watched =>
    cases hst : s.stage with
    | draining d =>
      obtain ⟨c, turn, hstep⟩ : ∃ c turn, Deferred.step terms now s.bench
          { d with room, watched } = (c, turn) := ⟨_, _, rfl⟩
      have hp := pending_of_advances (advances_of_step hstep)
      simp only [after, releases, hst, hstep, List.length_append, Nat.add_sub_cancel_left]
      exact hp
    | _ => simp [after, releases, hst]
  | cancel =>
    cases hst : s.stage with
    | draining d => simp [after, releases, hst, pending_giveUp]
    | _ => simp [after, releases, hst]
  | discard => cases hst : s.stage <;> simp [after, releases, hst, pending_discard]

/-- A step with an outcome ends the task in flight. -/
theorem takenOff_of_advances {b c : Bench} {d : Drain} {turn : Turn}
    (h : Advances terms b d c turn) :
    d.takenOff turn.drain = [] ∨ d.takenOff turn.drain = [1] ∧ d.inFlight = 1 := by
  cases h with
  | closed hi hq => exact .inl (Drain.takenOff_of_eq rfl)
  | taken hi hq he ht => exact .inl (Drain.takenOff_of_eq he)
  | registered hr hf hs => exact .inl (Drain.takenOff_of_eq hs.1)
  | noted hr hf hs => exact .inl (Drain.takenOff_of_eq hs.1)
  | rested hr hf hs hu => exact .inl (Drain.takenOff_of_eq hs.1)
  | concluded hr ht hi he hn =>
    exact .inr ⟨Drain.takenOff_of_concat he, Drain.inFlight_of_ticket? ht⟩

/-- What is taken off the count is there. -/
theorem covers_releases {p : Pending} (hs : s.share ≤ p.count) (happening : Happening) :
    p.Covers (s.releases terms happening) := by
  have hq : s.bench.queue.tasks.length ≤ p.count := Nat.le_trans (Nat.le_add_right _ _) hs
  -- A release takes off what the share still holds, and the share is part of the count.
  cases happening with
  | register | others | begin => exact trivial
  | step now room watched =>
    cases hst : s.stage with
    | draining d =>
      obtain ⟨c, turn, hstep⟩ : ∃ c turn, Deferred.step terms now s.bench
          { d with room, watched } = (c, turn) := ⟨_, _, rfl⟩
      simp only [releases, hst, hstep]
      rcases takenOff_of_advances (advances_of_step hstep) with hnone | ⟨hone, hf⟩
      · have ht : d.takenOff turn.drain = [] := hnone
        rw [ht]
        exact trivial
      · have ht : d.takenOff turn.drain = [1] := hone
        have hflight : d.inFlight = 1 := hf
        simp only [share, hst, Stage.inFlight] at hs
        rw [ht]
        exact ⟨by omega, trivial⟩
    | _ =>
      simp only [releases, hst]
      exact trivial
  | cancel =>
    cases hst : s.stage with
    | draining d =>
      simp only [share, hst, Stage.inFlight] at hs
      simp only [releases, hst]
      refine ⟨by omega, ?_, trivial⟩
      rw [Pending.count_release]
      omega
    | _ =>
      simp only [releases, hst]
      exact trivial
  | discard =>
    cases hst : s.stage with
    | draining d =>
      simp only [releases, hst]
      exact trivial
    | _ =>
      simp only [releases, hst]
      exact ⟨hq, trivial⟩

end Session
end EdgeRender.Deferred
