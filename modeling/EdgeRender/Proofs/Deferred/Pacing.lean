import EdgeRender.Proofs.Deferred.Settling

/-! # The pace of whole turns

A drain that has whole turns goes on until its task in flight has to wait, or to its end.
Between two turns it therefore has a task in flight, unless it has had no turn yet; in
particular no turn ends between the last task and the closing of the queue.
-/
namespace EdgeRender.Deferred

/-- A step after which the drain has to wait leaves its task in flight. -/
theorem Advances.inFlight_of_rest {terms : Terms} {b c : Bench} {d : Drain} {turn : Turn}
    (h : Advances terms b d c turn) (hgo : ∀ e, turn ≠ .go e) (hu : turn.isUnderWay = true) :
    turn.drain.inFlight = 1 := by
  cases h with
  | closed hi hq => cases hu
  | rested hr hf hs hu =>
    rw [hs.inFlight]
    exact hf
  | taken | registered | noted | concluded => exact absurd rfl (hgo _)

def Turn.Rests (turn : Turn) : Prop :=
  (∃ e, turn = .finished e) ∨ turn.isUnderWay = true ∧ turn.drain.inFlight = 1

theorem Advances.rests {terms : Terms} {b c : Bench} {d : Drain} {turn : Turn}
    (h : Advances terms b d c turn) (hgo : ∀ e, turn ≠ .go e) : turn.Rests := by
  cases hu : turn.isUnderWay with
  | true => exact .inr ⟨hu, h.inFlight_of_rest hgo hu⟩
  | false =>
    cases turn with
    | finished e => exact .inl ⟨e, rfl⟩
    | givenUp e => exact absurd rfl (h.ne_givenUp e)
    | go | paused | waiting => cases hu

/-- A burst that nobody gives up ends with the drain, or with a task in flight. -/
theorem rests_of_runBurst {terms : Terms} (hnever : terms.giveUpAt = none) {now bound : Nat}
    {w : Bool} {b c : Bench} {d : Drain} {turn : Turn}
    (h : runBurst terms now w bound b d = (c, turn)) (hgo : ∀ e, turn ≠ .go e) :
    turn.Rests := by
  induction bound generalizing b d with
  | zero =>
    obtain ⟨-, rfl⟩ := Prod.mk.inj h
    exact absurd rfl (hgo d)
  | succ bound ih =>
    unfold runBurst at h
    split at h
    · exact ih h
    · next b₁ d₁ hst =>
      rw [EventLoop.suspend_of_unlimited hnever] at h
      obtain ⟨-, rfl⟩ := Prod.mk.inj h
      exact (advances_of_step hst).rests hgo
    · next b₁ time d₁ hst =>
      rw [EventLoop.suspend_of_unlimited hnever] at h
      obtain ⟨-, rfl⟩ := Prod.mk.inj h
      exact .inr ⟨rfl, (advances_of_step hst).inFlight_of_rest (by simp) rfl⟩
    · exact (advances_of_step h).rests hgo

/-- A drain has had no turn yet or has a task in flight, and a drain that is over has run to
its end. -/
def Job.IsPaced : Job → Prop
  | .drain d => d.drain = {} ∨ d.drain.inFlight = 1
  | .over ending => ending ≠ .done
  | .acquire _ | .release .. => True

theorem Settles.isPaced {d : DrainJob} {turn : Turn} {events : List Event} {job : Job}
    (h : Settles d turn events job) (hsafe : d.hook.isSafe = true) (hr : turn.Rests) :
    job.IsPaced := by
  have hshows := h.shows hsafe
  rcases hr with ⟨e, rfl⟩ | ⟨hu, hf⟩
  · cases hshows with
    | reported => exact nofun
  · rw [Stage.ofTurn_of_isUnderWay hu] at hshows
    generalize hdrain : turn.drain = e at hshows hf
    cases hshows with
    | draining hd => exact .inr hf

/-- A turn of a drain changes its own job, which keeps the pace. -/
theorem EventLoop.exists_runDrain {l : EventLoop} (k : Nat) {d : DrainJob} {s : Scheduler}
    (hs : l.schedulers[d.request]? = some s) (hsafe : d.hook.isSafe = true) :
    ∃ job, (l.runDrain k d).2.jobs = l.jobs.set k job ∧ job.IsPaced := by
  obtain ⟨c, turn, hb⟩ : ∃ c turn, burst (l.termsOf d.request s none) l.now allowance
      (l.bench d.request) d.drain = (c, turn) := ⟨_, _, rfl⟩
  have hgo : ∀ e, turn ≠ .go e := by
    intro e he
    subst he
    exact burst_ne_go _ _ _ _ _ _ _ hb
  have hrests : turn.Rests := rests_of_runBurst rfl hb hgo
  obtain ⟨events, job, hl, hset⟩ := (l.putBench d.request c).exists_settle k d turn
  refine ⟨job, ?_, hset.isPaced hsafe hrests⟩
  unfold runDrain turn?
  rw [hs]
  simp only [Option.map_some, hb, hl]
  rfl

end EdgeRender.Deferred
