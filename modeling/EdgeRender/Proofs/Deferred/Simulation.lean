import EdgeRender.Deferred.Drain

/-! # Drains that do the same

What a drain does next follows from its queue, from what it is about to do, from its time
limit and from the time. So it does the same on benches that are related in any way that its
steps keep.
-/
namespace EdgeRender.Deferred

structure SameTurn (R : Bench → Bench → Prop) (p q : Bench × Turn) : Prop where
  turn : q.2 = p.2
  bench : R p.1 q.1

/-- A relation between benches with the same queue that is kept by all that a drain does to a
bench, on the terms of the one and on those of the other. -/
structure Simulation (terms terms' : Terms) (R : Bench → Bench → Prop) : Prop where
  limit : terms'.limit = terms.limit
  queue : ∀ {b b'}, R b b' → b'.queue = b.queue
  /-- An effect panics on both benches or on neither. -/
  perform : ∀ {b b'}, R b b' → ∀ e,
    (∃ c c', b.perform e = .ok c ∧ b'.perform e = .ok c' ∧ R c c') ∨
      ∃ payload, b.perform e = .error payload ∧ b'.perform e = .error payload
  closed : ∀ {b b'}, R b b' → ∀ queue : Queue, R { b with queue } { b' with queue }
  taken : ∀ {b b'}, R b b' → ∀ (queue : Queue) (id : Nat),
    R ({ b with queue }.record [.started terms.request id])
      ({ b' with queue }.record [.started terms'.request id])
  ended : ∀ {b b'}, R b b' → ∀ d id source label failure,
    R (conclude terms b d id source label failure).1 (conclude terms' b' d id source label failure).1

namespace Simulation

variable {terms terms' : Terms} {R : Bench → Bench → Prop} {b b' : Bench}

theorem conclude (h : Simulation terms terms' R) (hb : R b b') (d : Drain) (id : Nat)
    (source : String) (label : Option String) (failure : Option Failure) :
    SameTurn R (Deferred.conclude terms b d id source label failure)
      (Deferred.conclude terms' b' d id source label failure) :=
  ⟨rfl, h.ended hb d id source label failure⟩

theorem takeUp (h : Simulation terms terms' R) (hb : R b b') (d : Drain) :
    SameTurn R (Deferred.takeUp terms b d) (Deferred.takeUp terms' b' d) := by
  unfold Deferred.takeUp
  rw [h.queue hb]
  split
  · exact ⟨rfl, h.closed hb _⟩
  · exact ⟨rfl, h.taken hb _ _⟩

theorem setUp (h : Simulation terms terms' R) (hb : R b b') (now : Nat) (d : Drain) (t : Queued)
    (rest : List (Effect Task)) :
    SameTurn R (Deferred.setUp terms now b d t rest) (Deferred.setUp terms' now b' d t rest) := by
  cases rest with
  | nil =>
    unfold Deferred.setUp
    rw [h.limit]
    exact ⟨rfl, hb⟩
  | cons e rest =>
    simp only [Deferred.setUp]
    rcases h.perform hb e with ⟨c, c', hc, hc', hr⟩ | ⟨payload, hc, hc'⟩
    · rw [hc, hc']
      exact ⟨rfl, hr⟩
    · rw [hc, hc']
      exact h.conclude hb d _ _ _ _

theorem timeOut (h : Simulation terms terms' R) (hb : R b b') (d : Drain) (f : Flight) :
    SameTurn R (Deferred.timeOut terms b d f) (Deferred.timeOut terms' b' d f) := by
  unfold Deferred.timeOut
  rw [h.limit]
  exact h.conclude hb _ _ _ _ _

theorem pause (h : Simulation terms terms' R) (hb : R b b') (now : Nat) (d : Drain)
    (f : Flight) :
    SameTurn R (Deferred.pause terms now b d f) (Deferred.pause terms' now b' d f) := by
  unfold Deferred.pause
  split
  · exact h.timeOut hb d f
  · exact ⟨rfl, hb⟩

theorem fly (h : Simulation terms terms' R) (hb : R b b') (now : Nat) (d : Drain) (f : Flight) :
    SameTurn R (Deferred.fly terms now b d f) (Deferred.fly terms' now b' d f) := by
  unfold Deferred.fly
  split
  · exact h.conclude hb d _ _ _ _
  · next e rest _ =>
    rcases h.perform hb e with ⟨c, c', hc, hc', hr⟩ | ⟨payload, hc, hc'⟩
    · rw [hc, hc']
      exact ⟨rfl, hr⟩
    · rw [hc, hc']
      exact h.conclude hb d _ _ _ _
  · exact h.conclude hb d _ _ _ _
  · exact h.pause hb now d _
  · split
    · exact h.pause hb now d f
    · split
      · exact ⟨rfl, hb⟩
      · split
        · exact h.timeOut hb d f
        · exact ⟨rfl, hb⟩

/-- A step of a drain is the same on both benches. -/
theorem step (h : Simulation terms terms' R) (hb : R b b') (now : Nat) (d : Drain) :
    SameTurn R (Deferred.step terms now b d) (Deferred.step terms' now b' d) := by
  unfold Deferred.step
  split
  · exact h.takeUp hb d
  · exact h.setUp hb now d _ _
  · exact h.fly hb now d _
  · split
    · exact ⟨rfl, hb⟩
    · split
      · exact h.timeOut hb d _
      · exact ⟨rfl, hb⟩

end Simulation
end EdgeRender.Deferred
