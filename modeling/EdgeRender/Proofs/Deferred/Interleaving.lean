import EdgeRender.Deferred.EventLoop
import Mathlib.Logic.Relation

/-! # Interleavings

The event loop gives its jobs turns in a fixed order, and a turn lasts until the drain
has to wait. `Turned` gives any job a turn at any time; `Stepped` lets any drain make a
single step at any time, and also be cancelled between two steps. Every wait of the loop
is a sequence of turns, and every turn is a sequence of steps, so that what holds of all
sequences of steps holds of the loop, whoever waits and however long.
-/
namespace EdgeRender.Deferred.EventLoop

open Relation

def stepDrain (l : EventLoop) (k : Nat) (d : DrainJob) (s : Scheduler) (now room : Nat)
    (watched : Bool) : EventLoop :=
  let (b, turn) := step (l.termsOf d.request s none) now (l.bench d.request)
    { d.drain with room, watched }
  ((l.putBench d.request b).settle k d turn).2

/-- The drain of a job is dropped, and its hook never runs. -/
def cancelDrain (l : EventLoop) (k : Nat) (d : DrainJob) : EventLoop :=
  (l.putBench d.request (giveUp (l.bench d.request) d.drain)).putJob k (.over .done)

/-- What the loop may do between two looks at it, if drains can be interrupted after every
step. -/
inductive Stepped (l : EventLoop) : EventLoop → Prop
  | stepped {k : Nat} {d : DrainJob} {s : Scheduler} (now room : Nat) (watched : Bool)
      (hj : l.jobs[k]? = some (.drain d)) (hs : l.schedulers[d.request]? = some s) :
      Stepped l (l.stepDrain k d s now room watched)
  | cancelled {k : Nat} {d : DrainJob} (hj : l.jobs[k]? = some (.drain d)) :
      Stepped l (l.cancelDrain k d)
  /-- A drain of a request that does not exist ends at once. -/
  | orphaned {k : Nat} {d : DrainJob} (hj : l.jobs[k]? = some (.drain d))
      (hs : l.schedulers[d.request]? = none) :
      Stepped l (l.putJob k (.over .done))
  | timed {k : Nat} (hj : ∀ d, l.jobs[k]? ≠ some (.drain d)) : Stepped l (l.runJob k).2
  | arranged (now : Nat) (line : List Nat) (credit elapsedMicros : Nat) :
      Stepped l { l with now, line, credit, elapsedMicros }
  | alerted (a : Alert) : Stepped l (l.record [.alert a])

/-- What the loop may do between two looks at it, if jobs have whole turns. -/
inductive Turned (l : EventLoop) : EventLoop → Prop
  | turned (k : Nat) : Turned l (l.runJob k).2
  | arranged (now : Nat) (line : List Nat) (credit elapsedMicros : Nat) :
      Turned l { l with now, line, credit, elapsedMicros }
  | alerted (a : Alert) : Turned l (l.record [.alert a])

/-! ## Benches and jobs -/

theorem bench_putBench {l : EventLoop} {request : Nat} {s : Scheduler} (b : Bench)
    (hs : l.schedulers[request]? = some s) : (l.putBench request b).bench request = b := by
  have hq : (l.putBench request b).queue request = b.queue := by
    simp [queue, putBench, hs]
  unfold bench
  rw [hq]
  rfl

/-- The bench of a request after a turn of its drain. -/
theorem bench_turn (l : EventLoop) {request : Nat} {s : Scheduler} (job : Job) (b : Bench)
    (events : List Event) (j : Nat) (hs : l.schedulers[request]? = some s) :
    (((l.putBench request b).record events).putJob j job).bench request = b.record events := by
  show ((l.putBench request b).bench request).record events = _
  rw [bench_putBench b hs]

theorem schedulers_putBench {l : EventLoop} {request : Nat} {s : Scheduler} (b : Bench)
    (hs : l.schedulers[request]? = some s) :
    (l.putBench request b).schedulers[request]? = some { s with queue := b.queue } := by
  simp [putBench, hs]

theorem putBench_putBench (l : EventLoop) (request : Nat) (b c : Bench) :
    (l.putBench request b).putBench request c = l.putBench request c := by
  have hm : ∀ ss : List Scheduler,
      (ss.modify request ({ · with queue := b.queue })).modify request
        ({ · with queue := c.queue }) = ss.modify request ({ · with queue := c.queue }) := by
    intro ss
    rw [List.modify_modify_eq]
    rfl
  unfold putBench
  rw [hm]

theorem putJob_putJob (l : EventLoop) (k : Nat) (i j : Job) :
    (l.putJob k i).putJob k j = l.putJob k j := by
  unfold putJob
  rw [List.set_set]

theorem conclude_putJob (l : EventLoop) (k : Nat) (j : Job) (d : DrainJob) (r : Report) :
    (l.putJob k j).conclude d r = ((l.conclude d r).1, (l.conclude d r).2.putJob k j) := by
  unfold conclude
  cases d.hook <;> rfl

/-- What becomes of a job does not depend on what it was. -/
theorem settle_putJob (l : EventLoop) (k : Nat) (j : Job) (d : DrainJob) (drain : Drain)
    (due : Nat) (turn : Turn) :
    (l.putJob k j).settle k { d with drain, due } turn = l.settle k d turn := by
  cases turn with
  | finished e =>
    have hc : (l.putJob k j).conclude { d with drain, due } e.report
        = ((l.conclude d e.report).1, (l.conclude d e.report).2.putJob k j) :=
      conclude_putJob l k j d e.report
    simp only [settle, hc, putJob_putJob]
  | givenUp e => simp only [settle, putJob_putJob]
  | waiting time e => simp only [settle, putJob_putJob]
  | go e => simp only [settle, putJob_putJob]; rfl
  | paused e => simp only [settle, putJob_putJob]; rfl

/-! ## A turn is a sequence of steps -/

theorem suspend_of_unlimited {terms : Terms} (h : terms.giveUpAt = none) (now : Nat)
    (w : Bool) (b : Bench) (d : Drain) (turn : Turn) :
    suspend terms now w b d turn = (b, turn) := by
  simp [suspend, Terms.isOver, h]

/-- The state in which a step leaves the loop if more can be done at once. -/
theorem steps_rest {l : EventLoop} {k : Nat} {d : DrainJob} {s : Scheduler} {b c : Bench}
    {e : Drain} {turn : Turn} (hs : l.schedulers[d.request]? = some s)
    (h : ∀ (m : EventLoop) (j : DrainJob), m.bench d.request = b →
      m.schedulers[d.request]? = some { s with queue := b.queue } →
      m.jobs = l.jobs.set k (.drain j) → m.now = l.now → m.elapsedMicros = l.elapsedMicros →
      j.request = d.request → j.drain = e →
      ReflTransGen Stepped m ((m.putBench d.request c).settle k j turn).2) :
    ReflTransGen Stepped ((l.putBench d.request b).settle k d (.go e)).2
      ((l.putBench d.request c).settle k d turn).2 := by
  have hrest := h ((l.putBench d.request b).settle k d (.go e)).2
    { d with drain := e, due := l.now } (bench_putBench b hs) (schedulers_putBench b hs)
    rfl rfl rfl rfl rfl
  have hput : ((l.putBench d.request b).settle k d (.go e)).2.putBench d.request c
      = (l.putBench d.request c).putJob k (.drain { d with drain := e, due := l.now }) := by
    show ((l.putBench d.request b).putBench d.request c).putJob k _ = _
    rw [putBench_putBench]
    rfl
  rw [hput, settle_putJob] at hrest
  exact hrest

theorem steps_runBurst {l : EventLoop} {k bound room : Nat} {d : DrainJob} {s : Scheduler}
    {w watched : Bool} {c : Bench} {turn : Turn} (hj : l.jobs[k]? = some (.drain d))
    (hs : l.schedulers[d.request]? = some s) (hb : bound ≠ 0)
    (h : runBurst (l.termsOf d.request s none) l.now w bound (l.bench d.request)
      { d.drain with room, watched } = (c, turn))
    (hgo : ∀ e, turn ≠ .go e) :
    ReflTransGen Stepped l ((l.putBench d.request c).settle k d turn).2 := by
  -- The burst goes on in the loop that its first step leaves, so the induction is over all loops.
  induction bound generalizing l d s room watched with
  | zero => exact absurd rfl hb
  | succ bound ih =>
    have hstep : ∀ b t, step (l.termsOf d.request s none) l.now (l.bench d.request)
        { d.drain with room, watched } = (b, t) →
        Stepped l ((l.putBench d.request b).settle k d t).2 := by
      intro b t hst
      have hstepped := Stepped.stepped l.now room watched hj hs
      simp only [stepDrain, hst] at hstepped
      exact hstepped
    have hnever : (l.termsOf d.request s none).giveUpAt = none := rfl
    unfold runBurst at h
    split at h
    · next b₁ d₁ hst =>
      have hz : bound ≠ 0 := by
        intro hz
        subst hz
        obtain ⟨-, rfl⟩ := Prod.mk.inj h
        exact hgo d₁ rfl
      refine .head (hstep b₁ _ hst) (steps_rest hs ?_)
      intro m j hbench hsched hjobs hnow helapsed hreq hdrain
      have hjm : m.jobs[k]? = some (.drain j) := by
        have hlt : k < l.jobs.length := (List.getElem?_eq_some_iff.mp hj).1
        rw [hjobs, List.getElem?_set_self hlt]
      have hterms : m.termsOf d.request { s with queue := b₁.queue } none
          = l.termsOf d.request s none := by
        unfold termsOf
        rw [helapsed]
      have hrest : runBurst (m.termsOf d.request { s with queue := b₁.queue } none) m.now w
          bound (m.bench d.request)
          { j.drain with room := j.drain.room, watched := j.drain.watched } = (c, turn) := by
        rw [hterms, hnow, hbench, hdrain]
        exact h
      rw [← hreq] at hsched hrest ⊢
      exact ih hjm hsched hz hrest
    · next b₁ d₁ hst =>
      rw [suspend_of_unlimited hnever] at h
      obtain ⟨rfl, rfl⟩ := Prod.mk.inj h
      exact .single (hstep b₁ _ hst)
    · next b₁ time d₁ hst =>
      have htime : (l.termsOf d.request s none).bounded time = time := rfl
      rw [suspend_of_unlimited hnever, htime] at h
      obtain ⟨rfl, rfl⟩ := Prod.mk.inj h
      exact .single (hstep b₁ _ hst)
    · exact .single (hstep c turn h)


theorem steps_runDrain {l : EventLoop} {k : Nat} {d : DrainJob}
    (hj : l.jobs[k]? = some (.drain d)) : ReflTransGen Stepped l (l.runDrain k d).2 := by
  unfold runDrain turn?
  cases hs : l.schedulers[d.request]? with
  | none => exact .single (.orphaned hj hs)
  | some s =>
    obtain ⟨c, turn, hb⟩ : ∃ c turn, burst (l.termsOf d.request s none) l.now allowance
        (l.bench d.request) d.drain = (c, turn) := ⟨_, _, rfl⟩
    have hgo : ∀ e, turn ≠ .go e := by
      intro e he
      subst he
      exact burst_ne_go _ _ _ _ _ _ _ hb
    simp only [Option.map_some, hb]
    exact steps_runBurst hj hs (Nat.succ_ne_zero _) hb hgo

theorem steps_runJob (l : EventLoop) (k : Nat) : ReflTransGen Stepped l (l.runJob k).2 := by
  by_cases hj : ∀ d, l.jobs[k]? ≠ some (.drain d)
  · exact .single (.timed hj)
  · obtain ⟨d, hd⟩ : ∃ d, l.jobs[k]? = some (.drain d) := by
      simpa using hj
    unfold runJob
    rw [hd]
    dsimp only
    split
    · exact steps_runDrain hd
    · exact .refl

/-- Every turn is a sequence of steps. -/
theorem steps_of_turned {l m : EventLoop} (h : Turned l m) : ReflTransGen Stepped l m := by
  cases h with
  | turned k => exact steps_runJob l k
  | arranged now line credit elapsedMicros =>
    exact .single (.arranged now line credit elapsedMicros)
  | alerted a => exact .single (.alerted a)

/-! ## A wait is a sequence of turns -/

theorem turns_runTurns (aside line : List Nat) (l : EventLoop) :
    ReflTransGen Turned l (runTurns aside line l).2 := by
  induction line generalizing aside l with
  | nil => exact .refl
  | cons k line ih =>
    have hk : Turned l (l.runJob k).2 := .turned k
    unfold runTurns
    split
    · next m hm =>
      rw [hm] at hk
      exact .head hk (ih (k :: aside) m)
    · next m hm =>
      rw [hm] at hk
      exact .head hk (ih aside m)

theorem turns_runRound (l : EventLoop) : ReflTransGen Turned l l.runRound := by
  have hturns := turns_runTurns [] (l.line.take roundSize) l
  unfold runRound
  generalize runTurns [] (l.line.take roundSize) l = r at hturns
  obtain ⟨aside, m⟩ := r
  exact .tail hturns (.arranged m.now _ m.credit m.elapsedMicros)

theorem turned_refill (l : EventLoop) : Turned l l.refill :=
  .arranged l.now l.line allowance l.elapsedMicros

theorem turned_moveClock (l : EventLoop) (time : Nat) : Turned l (l.moveClock time) :=
  .arranged _ _ l.credit l.elapsedMicros

section Waits

variable {α σ : Type} {look : EventLoop → σ → Look α σ × EventLoop}

theorem turns_waitFrom (hlook : ∀ l s, ReflTransGen Turned l (look l s).2) (bound : Nat)
    (l : EventLoop) (s : σ) : ReflTransGen Turned l (waitFrom look bound l s).2 := by
  induction bound generalizing l s with
  | zero => exact .refl
  | succ bound ih =>
    have hl := hlook l s
    have hround : ∀ m s, ReflTransGen Turned l m →
        ReflTransGen Turned l (waitFrom look bound m.runRound.refill s).2 := by
      intro m s hm
      exact ((hm.trans (turns_runRound m)).tail (turned_refill _)).trans (ih _ s)
    unfold waitFrom
    split
    · next a m hm =>
      rw [hm] at hl
      exact hl
    · next s' m hm =>
      rw [hm] at hl
      exact hround m s' hl
    · next time s' m hm =>
      rw [hm] at hl
      split
      · split
        · exact hl
        · next time _ =>
          exact ((hl.tail (turned_moveClock m time)).tail (turned_refill _)).trans (ih _ s')
      · exact hround m s' hl

/-- An answer is given when the wait is looked at for the last time. -/
theorem look_of_waitFrom {bound : Nat} {l m : EventLoop} {s : σ} {a : α}
    (h : waitFrom look bound l s = (some a, m)) : ∃ l' s', look l' s' = (.over a, m) := by
  induction bound generalizing l s with
  | zero => cases h
  | succ bound ih =>
    unfold waitFrom at h
    split at h
    · next a' m' hl =>
      obtain ⟨ha, rfl⟩ := Prod.mk.inj h
      obtain rfl := Option.some.inj ha
      exact ⟨l, s, hl⟩
    · exact ih h
    · split at h
      · split at h
        · cases h
        · exact ih h
      · exact ih h

end Waits

theorem turned_close {α σ : Type} (l : EventLoop) (answer : α) :
    Turned l (l.close (σ := σ) answer).2 :=
  .arranged l.now l.line (l.credit - 1) l.elapsedMicros

theorem turns_sleep (l : EventLoop) (millis : Nat) : ReflTransGen Turned l (l.sleep millis) := by
  have hlook : ∀ m s, ReflTransGen Turned m (lookClock (l.now + millis) m s).2 := by
    intro m s
    unfold lookClock
    split
    · exact .refl
    · split
      · exact .single (turned_close m ())
      · exact .refl
  exact turns_waitFrom hlook (2 * (l.work + l.jobs.length) + 5) l ()

theorem turns_await (l : EventLoop) (k : Nat) : ReflTransGen Turned l (l.await k).2 := by
  have hlook : ∀ l s, ReflTransGen Turned l (lookEnding k l s).2 := by
    intro l s
    unfold lookEnding
    split
    · exact .refl
    · split
      · exact .single (turned_close l _)
      · exact .refl
  exact turns_waitFrom hlook (2 * (l.work + l.jobs.length) + 5) l ()

theorem turns_join (l : EventLoop) (k : Nat) : ReflTransGen Turned l (l.join k).2 := by
  have ha := turns_await l k
  unfold join
  split
  · next m hm =>
    rw [hm] at ha
    exact ha
  · next error m hm =>
    rw [hm] at ha
    exact ha.tail (.alerted (.drainLost error))
  · next m hm =>
    rw [hm] at ha
    exact ha

theorem turns_lookIdle (l : EventLoop) (w : Waiter) :
    ReflTransGen Turned l (lookIdle l w).2 := by
  unfold lookIdle
  split
  · exact .refl
  · split
    · exact .refl
    · split
      · exact .single (turned_close l _)
      · exact .refl

theorem turns_waitIdle (l : EventLoop) (millis : Nat) :
    ReflTransGen Turned l (l.waitIdle millis).2 := by
  have hw := turns_waitFrom turns_lookIdle (2 * (l.work + l.jobs.length) + 5) l
    ⟨l.now + millis, l.pending.wakeups⟩
  unfold waitIdle wait
  split
  · exact .refl
  · generalize waitFrom lookIdle _ l _ = r at hw
    obtain ⟨answer, m⟩ := r
    dsimp only at hw ⊢
    split
    · exact hw
    · exact hw.tail (.alerted (.waitTimedOut m.pending.count))

theorem turns_holdTermination (l : EventLoop) (host : HostModel) (millis : Nat) :
    ReflTransGen Turned l (l.holdTermination host millis).2 := by
  unfold holdTermination
  split
  · exact turns_waitIdle l millis
  · exact .refl

/-- A wait that is told at a look that no work is pending finds no work pending. -/
theorem isIdle_of_lookIdle {l m : EventLoop} {w : Waiter}
    (h : lookIdle l w = (.over true, m)) : m.pending.isIdle = true := by
  unfold lookIdle at h
  split at h
  · next hserved =>
    obtain ⟨-, rfl⟩ := Prod.mk.inj h
    exact (Bool.and_eq_true_iff.mp hserved).2
  · split at h
    · cases h
    · split at h
      · obtain ⟨hover, rfl⟩ := Prod.mk.inj h
        exact Look.over.inj hover
      · cases h

/-- Whoever has waited until no work was pending finds no work pending. -/
theorem isIdle_of_waitIdle {l m : EventLoop} {millis : Nat}
    (h : l.waitIdle millis = (true, m)) : m.pending.isIdle = true := by
  unfold waitIdle at h
  split at h
  · next hi =>
    obtain ⟨-, rfl⟩ := Prod.mk.inj h
    exact hi
  · obtain ⟨answer, m', hw⟩ : ∃ answer m', l.wait lookIdle
        ⟨l.now + millis, l.pending.wakeups⟩ = (answer, m') := ⟨_, _, rfl⟩
    rw [hw] at h
    dsimp only at h
    obtain ⟨hidle, hm⟩ := Prod.mk.inj h
    rw [if_pos hidle] at hm
    subst hm
    cases answer with
    | none => cases hidle
    | some a =>
      obtain ⟨l', w, hl⟩ := look_of_waitFrom hw
      have ha : a = true := hidle
      subst ha
      exact isIdle_of_lookIdle hl

end EdgeRender.Deferred.EventLoop
