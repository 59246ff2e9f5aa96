/-! # Pending work

A count of the work that has been registered and is not yet done, shared by all
requests of a runtime, and the waiting for it to reach zero. A waiter remembers how
many wake-ups there had been when it began to wait, so that it misses none.
-/
namespace EdgeRender.Deferred

/-- The work not yet done, and how often waiters have been woken. -/
structure Pending where
  count : Nat := 0
  wakeups : Nat := 0
  deriving DecidableEq, Repr

namespace Pending

def acquire (p : Pending) : Pending :=
  { p with count := p.count + 1 }

/-- Take work off, at most what there is. Waiters are woken when none is left, also if
there was none before. -/
def release (p : Pending) (n : Nat) : Pending :=
  if n = 0 then p
  else
    { count := p.count - n
      wakeups := if p.count ≤ n then p.wakeups + 1 else p.wakeups }

def isIdle (p : Pending) : Bool :=
  p.count == 0

@[simp] theorem count_acquire (p : Pending) : p.acquire.count = p.count + 1 := rfl

@[simp] theorem wakeups_acquire (p : Pending) : p.acquire.wakeups = p.wakeups := rfl

@[simp] theorem count_release (p : Pending) (n : Nat) : (p.release n).count = p.count - n := by
  unfold release
  split
  · next h => simp [h]
  · rfl

theorem wakeups_le_release (p : Pending) (n : Nat) : p.wakeups ≤ (p.release n).wakeups := by
  unfold release
  split
  · exact Nat.le_refl _
  · dsimp only
    split <;> omega

/-- Whoever takes the last work off wakes the waiters. -/
theorem wakeups_lt_release {p : Pending} {n : Nat} (hn : n ≠ 0)
    (h : (p.release n).count = 0) : p.wakeups < (p.release n).wakeups := by
  have hle : p.count ≤ n := by simpa [Nat.sub_eq_zero_iff_le] using h
  simp [release, hn, hle]

theorem isIdle_iff {p : Pending} : p.isIdle ↔ p.count = 0 := by
  simp [isIdle]

end Pending

/-- Somebody who waits until no work is pending or the deadline passes. -/
structure Waiter where
  deadline : Nat
  /-- The wake-ups seen. -/
  seen : Nat
  deriving DecidableEq, Repr

namespace Waiter

/-- Has there been a wake-up, and is no work pending? Woken in vain, the waiter goes on. -/
def isServed (p : Pending) (w : Waiter) : Bool :=
  decide (w.seen < p.wakeups) && p.isIdle

/-- Wait on, having seen the wake-ups so far. -/
def again (p : Pending) (w : Waiter) : Waiter :=
  { w with seen := p.wakeups }

/-- A waiter who has seen every wake-up is not served. -/
@[simp] theorem isServed_again (p : Pending) (w : Waiter) : (w.again p).isServed p = false := by
  simp [isServed, again]

end Waiter
end EdgeRender.Deferred
