import EdgeRender.Proofs.Deferred.Interleaving
import EdgeRender.Proofs.Deferred.Step

/-! # Turns lighten what is left to do

A drain that has a turn with room, at a time for which something is due of it, leaves less
to do than there was: it carries something out, or it is over. A drain that has to wait says
when something is due next, so that no turn of a job that is due is in vain.
-/
namespace EdgeRender.Deferred

/-- Is something due of a drain? That is so unless its task sleeps and need not wake up. -/
def Drain.IsDue (now : Nat) (d : Drain) : Prop :=
  match d.activity with
  | .asleep f wake => wake ≤ now ∨ f.deadline ≤ now
  | .idle | .settingUp .. | .flying _ => True

theorem Drain.IsDue.mono {now later : Nat} {d : Drain} (h : d.IsDue now) (hle : now ≤ later) :
    d.IsDue later := by
  unfold IsDue at h ⊢
  split at h
  · next f wake ha => exact h.imp (fun hw => Nat.le_trans hw hle) (fun hw => Nat.le_trans hw hle)
  · trivial
  · trivial
  · trivial

/-- A turn ends at a time for which something is due, if it is not over. -/
def Turn.IsPunctual (now : Nat) : Turn → Prop
  | .go d | .paused d => d.IsDue now
  | .waiting time d => d.IsDue time
  | .finished _ | .givenUp _ => True

/-- What a turn does to the work: nothing is added to it, and if the turn does not end the
drain, something is done. -/
inductive Lightens (b : Bench) (d : Drain) (c : Bench) : Turn → Prop
  | finished {e : Drain} (hw : c.queue.weight ≤ b.queue.weight + d.weight) :
      Lightens b d c (.finished e)
  | goesOn {turn : Turn} (hu : turn.isUnderWay = true)
      (hw : c.queue.weight + turn.drain.weight < b.queue.weight + d.weight) : Lightens b d c turn

variable {terms : Terms} {now room : Nat} {b c : Bench} {d e : Drain} {f : Flight}

/-! ## Steps after which the drain does not go on at once -/

theorem exists_go_of_conclude {id : Nat} {source : String} {label : Option String}
    {failure : Option Failure} {turn : Turn}
    (h : conclude terms b d id source label failure = (c, turn)) : ∃ e, turn = .go e := by
  obtain ⟨-, rfl⟩ := Prod.mk.inj h
  exact ⟨_, rfl⟩

theorem go_or_paused_of_pause {turn : Turn} (h : pause terms now b d f = (c, turn)) :
    (∃ e, turn = .go e) ∨ c = b ∧ turn = .paused { d with activity := .flying f } := by
  unfold pause at h
  split at h
  · exact .inl (exists_go_of_conclude h)
  · obtain ⟨rfl, rfl⟩ := Prod.mk.inj h
    exact .inr ⟨rfl, rfl⟩

/-- How a step of a drain ends after which it does not go on at once. -/
inductive Rests (now : Nat) (b : Bench) (d : Drain) : Bench → Turn → Prop
  /-- There is no other task. -/
  | finished {q : Queue} (hq : q.weight = b.queue.weight) :
      Rests now b d { b with queue := q } (.finished d)
  /-- The task steps aside: it has yielded, or there is no room for its sleep. -/
  | paused {e : Drain} {f : Flight} (he : e.activity = .flying f) (hw : e.weight ≤ d.weight)
      (hr : d.room ≠ 0 → e.weight < d.weight) : Rests now b d b (.paused e)
  /-- The task falls asleep, or sleeps on. -/
  | waiting {e : Drain} {f : Flight} {wake : Nat} (he : e.activity = .asleep f wake)
      (hw : e.weight ≤ d.weight) (hd : d.IsDue now → e.weight < d.weight) :
      Rests now b d b (.waiting (min wake f.deadline) e)

theorem rests_of_takeUp {turn : Turn} (h : takeUp terms b d = (c, turn))
    (hne : ∀ e, turn ≠ .go e) : Rests now b d c turn := by
  unfold takeUp at h
  cases hq : b.queue.tasks with
  | nil =>
    rw [Queue.take_of_nil hq] at h
    obtain ⟨rfl, rfl⟩ := Prod.mk.inj h
    exact .finished rfl
  | cons t ts =>
    rw [Queue.take_of_cons hq] at h
    obtain ⟨-, rfl⟩ := Prod.mk.inj h
    exact absurd rfl (hne _)

theorem exists_go_of_setUp {t : Queued} {rest : List (Effect Task)} {turn : Turn}
    (h : setUp terms now b d t rest = (c, turn)) : ∃ e, turn = .go e := by
  cases rest with
  | nil =>
    obtain ⟨-, rfl⟩ := Prod.mk.inj h
    exact ⟨_, rfl⟩
  | cons effect rest =>
    simp only [setUp] at h
    split at h
    · obtain ⟨-, rfl⟩ := Prod.mk.inj h
      exact ⟨_, rfl⟩
    · exact exists_go_of_conclude h

theorem rests_of_fly {turn : Turn} (ha : d.activity = .flying f)
    (h : fly terms now b d f = (c, turn)) (hne : ∀ e, turn ≠ .go e) : Rests now b d c turn := by
  have hgo : (∃ e, turn = .go e) → Rests now b d c turn := fun ⟨e, he⟩ => absurd he (hne e)
  have hd : d.weight = Task.bodyWeight f.rest + 1 := by simp only [Drain.weight, ha]
  -- A step that lightens the task goes on at once, unless it pauses or falls asleep. Without room
  -- it may rest with nothing done.
  unfold fly at h
  split at h
  · exact hgo (exists_go_of_conclude h)
  · split at h
    · obtain ⟨-, rfl⟩ := Prod.mk.inj h
      exact absurd rfl (hne _)
    · exact hgo (exists_go_of_conclude h)
  · exact hgo (exists_go_of_conclude h)
  · next rest hf =>
    rcases go_or_paused_of_pause h with hg | ⟨rfl, rfl⟩
    · exact hgo hg
    · have hw : Drain.weight { d with activity := .flying { f with rest } } < d.weight := by
        rw [hd, hf]
        simp only [Drain.weight, Task.bodyWeight, Task.stepWeight]
        omega
      exact .paused rfl (Nat.le_of_lt hw) fun _ => hw
  · next millis rest hf =>
    split at h
    · next hroom =>
      rcases go_or_paused_of_pause h with hg | ⟨rfl, rfl⟩
      · exact hgo hg
      · refine .paused rfl ?_ fun hr => absurd hroom hr
        rw [hd]
        exact Nat.le_refl _
    · split at h
      · obtain ⟨-, rfl⟩ := Prod.mk.inj h
        exact absurd rfl (hne _)
      · split at h
        · exact hgo (exists_go_of_conclude h)
        · obtain ⟨rfl, rfl⟩ := Prod.mk.inj h
          have hw : Drain.weight { d with
              activity := .asleep { f with rest } (now + millis) } < d.weight := by
            rw [hd, hf]
            simp only [Drain.weight, Task.bodyWeight, Task.stepWeight]
            omega
          exact .waiting (f := { f with rest }) rfl (Nat.le_of_lt hw) fun _ => hw

/-- A step after which the drain does not go on at once is one of those in `Rests`. -/
theorem rests_of_step {turn : Turn} (h : step terms now b d = (c, turn))
    (hne : ∀ e, turn ≠ .go e) : Rests now b d c turn := by
  unfold step at h
  split at h
  · exact rests_of_takeUp h hne
  · obtain ⟨e, he⟩ := exists_go_of_setUp h
    exact absurd he (hne e)
  · next ha => exact rests_of_fly ha h hne
  · next f wake ha =>
    split at h
    · obtain ⟨-, rfl⟩ := Prod.mk.inj h
      exact absurd rfl (hne _)
    · next hwake =>
      split at h
      · obtain ⟨e, he⟩ := exists_go_of_conclude h
        exact absurd he (hne e)
      · next hdead =>
        obtain ⟨rfl, rfl⟩ := Prod.mk.inj h
        refine .waiting ha (Nat.le_refl _) fun hd => ?_
        simp only [Drain.IsDue, ha] at hd
        exact absurd hd (by omega)

/-! ## Turns -/

theorem Rests.isPunctual {turn : Turn} (h : Rests now b d c turn) (time : Nat) :
    turn.IsPunctual time := by
  cases h with
  | finished => trivial
  | paused he => simp only [Turn.IsPunctual, Drain.IsDue, he]
  | waiting he =>
    simp only [Turn.IsPunctual, Drain.IsDue, he]
    omega

theorem Rests.lightens {turn : Turn} (h : Rests now b d c turn) (hr : d.room ≠ 0)
    (hd : d.IsDue now) : Lightens b d c turn := by
  cases h with
  | finished hq => exact .finished (hq ▸ Nat.le_add_right _ _)
  | paused he hw hlt => exact .goesOn rfl (Nat.add_lt_add_left (hlt hr) _)
  | waiting he hw hlt => exact .goesOn rfl (Nat.add_lt_add_left (hlt hd) _)

/-- A rest does not add to the work. -/
theorem Rests.weight_le {turn : Turn} (h : Rests now b d c turn) :
    c.queue.weight + turn.drain.weight ≤ b.queue.weight + d.weight := by
  cases h with
  | finished hq => exact Nat.le_of_eq (congrArg (· + d.weight) hq)
  | paused he hw => exact Nat.add_le_add_left hw _
  | waiting he hw => exact Nat.add_le_add_left hw _

theorem Rests.isOver_or {turn : Turn} (h : Rests now b d c turn) :
    turn = .finished d ∨ turn.isUnderWay = true := by
  cases h with
  | finished => exact .inl rfl
  | paused | waiting => exact .inr rfl

theorem Lightens.of_lt {b' : Bench} {d' : Drain} {turn : Turn}
    (hlt : b'.queue.weight + d'.weight < b.queue.weight + d.weight)
    (hle : c.queue.weight + turn.drain.weight ≤ b'.queue.weight + d'.weight)
    (ho : (∃ e, turn = .finished e) ∨ turn.isUnderWay = true) : Lightens b d c turn := by
  rcases ho with ⟨e, rfl⟩ | hu
  · exact .finished (by omega)
  · exact .goesOn hu (by omega)

/-- An unlimited turn of a drain ends at a rest, having added nothing to the work. -/
theorem weight_le_of_runBurst {bound : Nat} {w : Bool} {turn : Turn}
    (hg : terms.giveUpAt = none) (hb : b.queue.weight + d.weight < bound)
    (h : runBurst terms now w bound b d = (c, turn)) :
    c.queue.weight + turn.drain.weight ≤ b.queue.weight + d.weight ∧
      turn.IsPunctual now ∧ ((∃ e, turn = .finished e) ∨ turn.isUnderWay = true) := by
  induction bound generalizing b d with
  | zero => omega
  | succ bound ih =>
    have hrest : ∀ {c' turn'}, Rests now b d c' turn' → (c', turn') = (c, turn) →
        c.queue.weight + turn.drain.weight ≤ b.queue.weight + d.weight ∧
          turn.IsPunctual now ∧ ((∃ e, turn = .finished e) ∨ turn.isUnderWay = true) := by
      rintro c' turn' hr heq
      obtain ⟨rfl, rfl⟩ := Prod.mk.inj heq
      exact ⟨hr.weight_le, hr.isPunctual now, hr.isOver_or.imp_left fun he => ⟨_, he⟩⟩
    have hbound : ∀ time, terms.bounded time = time := fun time => by
      simp [Terms.bounded, hg]
    unfold runBurst at h
    split at h
    · next hs =>
      have hlt := weight_lt_of_step hs
      obtain ⟨hle, hrest⟩ := ih (by omega) h
      exact ⟨by omega, hrest⟩
    · next hs =>
      rw [EventLoop.suspend_of_unlimited hg] at h
      exact hrest (rests_of_step hs nofun) h
    · next hs =>
      rw [EventLoop.suspend_of_unlimited hg, hbound] at h
      exact hrest (rests_of_step hs nofun) h
    · next hgo hpaused hwaiting =>
      exact hrest (rests_of_step rfl fun e he => hgo _ e (Prod.ext rfl he)) h

/-- A turn with room, of a drain of which something is due, lightens what is left to do. -/
theorem lightens_of_burst {turn : Turn} (hg : terms.giveUpAt = none) (hr : room ≠ 0)
    (hd : d.IsDue now) (h : burst terms now room b d = (c, turn)) :
    Lightens b d c turn ∧ turn.IsPunctual now := by
  have hdue : (d.beginTurn room).IsDue now := hd
  have hroom : (d.beginTurn room).room ≠ 0 := hr
  have hbound : ∀ time, terms.bounded time = time := fun time => by
    simp [Terms.bounded, hg]
  -- If the first step rests already, it has done something, since there is room and it is due.
  have hrest : ∀ {c' turn'}, Rests now b (d.beginTurn room) c' turn' → (c', turn') = (c, turn) →
      Lightens b d c turn ∧ turn.IsPunctual now := by
    rintro c' turn' hrests heq
    obtain ⟨rfl, rfl⟩ := Prod.mk.inj heq
    have hlight := hrests.lightens hroom hdue
    refine ⟨?_, hrests.isPunctual now⟩
    cases hlight with
    | finished hw => exact .finished hw
    | goesOn hu hw => exact .goesOn hu hw
  unfold burst runBurst at h
  split at h
  · next hs =>
    have hlt := weight_lt_of_step hs
    rw [Drain.weight_beginTurn] at hlt
    obtain ⟨hle, hpunctual, hover⟩ := weight_le_of_runBurst hg (by omega) h
    exact ⟨.of_lt hlt hle hover, hpunctual⟩
  · next hs =>
    rw [EventLoop.suspend_of_unlimited hg] at h
    exact hrest (rests_of_step hs nofun) h
  · next hs =>
    rw [EventLoop.suspend_of_unlimited hg, hbound] at h
    exact hrest (rests_of_step hs nofun) h
  · next hgo hpaused hwaiting =>
    exact hrest (rests_of_step rfl fun e he => hgo _ e (Prod.ext rfl he)) h

end EdgeRender.Deferred
