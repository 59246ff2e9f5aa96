import EdgeRender.Deferred.Pending
import EdgeRender.Deferred.Task
import EdgeRender.Journal

/-! # Task queues

The tasks of one request wait in a queue, first come, first served. While the queue is
open each registration counts as pending work; once it is closed nothing gets in.
-/
namespace EdgeRender.Deferred

/-- A registered task and its number. -/
structure Queued where
  id : Nat
  task : Task
  deriving Repr

structure Queue where
  tasks : List Queued := []
  nextId : Nat := 0
  closed : Bool := false
  deriving Repr

namespace Queue

def weight (q : Queue) : Nat :=
  total (·.task.weight) q.tasks

/-- Put a task at the end; `none` if the queue is closed. -/
def push? (q : Queue) (task : Task) : Option Queue :=
  if q.closed then none
  else some { q with tasks := q.tasks ++ [⟨q.nextId, task⟩], nextId := q.nextId + 1 }

/-- Take the first task. A queue found empty is closed. -/
def take (q : Queue) : Option Queued × Queue :=
  match q.tasks with
  | [] => (none, { q with closed := true })
  | t :: ts => (some t, { q with tasks := ts })

/-- Close the queue and drop what is in it. -/
def discard (q : Queue) : Queue :=
  { q with tasks := [], closed := true }

theorem take_of_nil {q : Queue} (h : q.tasks = []) :
    q.take = (none, { q with closed := true }) := by
  unfold take
  rw [h]

theorem take_of_cons {q : Queue} {t : Queued} {ts : List Queued} (h : q.tasks = t :: ts) :
    q.take = (some t, { q with tasks := ts }) := by
  unfold take
  rw [h]

theorem weight_of_push? {q r : Queue} {task : Task} (h : q.push? task = some r) :
    r.weight = q.weight + task.weight := by
  unfold push? at h
  split at h
  · contradiction
  · obtain rfl := Option.some.inj h
    simp [weight, total]

theorem weight_of_take {q r : Queue} {t : Queued} (h : q.take = (some t, r)) :
    q.weight = t.task.weight + r.weight := by
  unfold take at h
  split at h
  · simp at h
  · next tasks ht =>
    obtain ⟨h₁, rfl⟩ := Prod.mk.inj h
    obtain rfl := Option.some.inj h₁
    simp [weight, ht, total]

end Queue

/-- Where the tasks of a request are worked on: its queue, the work pending in all
requests, and the journal. -/
structure Bench where
  queue : Queue := {}
  pending : Pending := {}
  journal : Journal := []

namespace Bench

def record (b : Bench) (events : List Event) : Bench :=
  { b with journal := b.journal ++ events }

/-- Register a task. One that comes too late is dropped with an alert. -/
def register (b : Bench) (task : Task) : Bench :=
  match b.queue.push? task with
  | some queue => { b with queue, pending := b.pending.acquire }
  | none => b.record [.alert (.registrationDropped task.source)]

/-- Drop all queued tasks; returns their number. -/
def discard (b : Bench) : Nat × Bench :=
  let count := b.queue.tasks.length
  (count, { b with queue := b.queue.discard, pending := b.pending.release count })

def observation (b : Bench) : String :=
  s!"queued={b.queue.tasks.length} pending={b.pending.count}"

/-- Carry out an effect; a panic ends the task. -/
def perform (b : Bench) : Effect Task → Except Payload Bench
  | .note text => .ok (b.record [.note text])
  | .observe => .ok (b.record [.note b.observation])
  | .register task => .ok (b.register task)
  | .panic payload => .error payload

theorem register_of_open {b : Bench} (h : b.queue.closed = false) (task : Task) :
    b.register task =
      { b with
        queue := { b.queue with
          tasks := b.queue.tasks ++ [⟨b.queue.nextId, task⟩], nextId := b.queue.nextId + 1 }
        pending := b.pending.acquire } := by
  simp [register, Queue.push?, h]

theorem register_of_closed {b : Bench} (h : b.queue.closed = true) (task : Task) :
    b.register task = b.record [.alert (.registrationDropped task.source)] := by
  simp [register, Queue.push?, h]

@[simp] theorem queue_record (b : Bench) (events : List Event) :
    (b.record events).queue = b.queue := rfl

theorem weight_register_le (b : Bench) (task : Task) :
    (b.register task).queue.weight ≤ b.queue.weight + task.weight := by
  unfold register
  split
  · next h => exact Nat.le_of_eq (Queue.weight_of_push? h)
  · simp

/-- What an effect adds to the queue weighs less than the effect. -/
theorem weight_lt_of_perform {b c : Bench} {e : Effect Task} (h : b.perform e = .ok c) :
    c.queue.weight < b.queue.weight + Task.effectWeight e := by
  cases e with
  | note text => obtain rfl := Except.ok.inj h; simp [Task.effectWeight]
  | observe => obtain rfl := Except.ok.inj h; simp [Task.effectWeight]
  | register task =>
    obtain rfl := Except.ok.inj h
    have := b.weight_register_le task
    simp only [Task.effectWeight]
    omega
  | panic payload => simp [perform] at h

end Bench
end EdgeRender.Deferred
