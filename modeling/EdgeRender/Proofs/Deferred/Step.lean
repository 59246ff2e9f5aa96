import EdgeRender.Deferred.Drain
import EdgeRender.Proofs.Journal

/-! # What one step of a drain does

A step of a drain does one thing to what it shares with others: it closes the queue, takes
a task, registers one, leaves a note, or ends the task in flight. `Advances` lists these,
and `advances_of_step` says that there is nothing else. What follows about drains is
proved from that list, without looking into a step again.
-/
namespace EdgeRender.Deferred

/-- What a registered task is known by. -/
structure Ticket where
  id : Nat
  source : String
  label : Option String
  deriving DecidableEq, Repr

def Queued.ticket (t : Queued) : Ticket := ⟨t.id, t.task.source, t.task.label⟩

def Outcome.ticket (o : Outcome) : Ticket := ⟨o.task, o.source, o.label⟩

def Activity.ticket? : Activity → Option Ticket
  | .idle => none
  | .settingUp t _ => some t.ticket
  | .flying f | .asleep f _ => some ⟨f.id, f.source, f.label⟩

@[simp] theorem ticket?_idle : Activity.idle.ticket? = none := rfl

namespace Drain

/-- The tasks that a drain has taken up: those that ended and the one in flight. -/
def begun (d : Drain) : List Ticket :=
  d.outcomes.map Outcome.ticket ++ d.activity.ticket?.toList

def effect? (d : Drain) : Option (Effect Task) :=
  match d.activity with
  | .settingUp _ (e :: _) => some e
  | .flying f =>
    match f.rest with
    | .effect e :: _ => some e
    | _ => none
  | _ => none

def registers? (d : Drain) : Option Task :=
  match d.effect? with
  | some (.register task) => some task
  | _ => none

theorem registers?_of_idle {d : Drain} (h : d.activity = .idle) : d.registers? = none := by
  simp [registers?, effect?, h]

theorem length_ticket? (d : Drain) : d.activity.ticket?.toList.length = d.inFlight := by
  unfold inFlight
  cases d.activity <;> rfl

/-- The same tasks have ended, and the same one is in flight. -/
def SameWork (d e : Drain) : Prop :=
  e.outcomes = d.outcomes ∧ e.activity.ticket? = d.activity.ticket?

theorem SameWork.begun {d e : Drain} (h : d.SameWork e) : e.begun = d.begun := by
  unfold Drain.begun
  rw [h.1, h.2]

theorem SameWork.inFlight {d e : Drain} (h : d.SameWork e) : e.inFlight = d.inFlight := by
  rw [← length_ticket?, ← length_ticket?, h.2]

end Drain

def Turn.drain : Turn → Drain
  | .go d | .paused d | .waiting _ d | .finished d | .givenUp d => d

def Turn.isUnderWay : Turn → Bool
  | .go _ | .paused _ | .waiting .. => true
  | .finished _ | .givenUp _ => false

/-- What a step of a drain does on its bench. -/
inductive Advances (terms : Terms) (b : Bench) (d : Drain) : Bench → Turn → Prop
  /-- The queue is empty and is closed. -/
  | closed (hi : d.activity = .idle) (hq : b.queue.tasks = []) :
      Advances terms b d { b with queue := { b.queue with closed := true } } (.finished d)
  /-- The first task is taken. -/
  | taken {t : Queued} {ts : List Queued} {e : Drain} (hi : d.activity = .idle)
      (hq : b.queue.tasks = t :: ts) (ho : e.outcomes = d.outcomes)
      (ht : e.activity.ticket? = some t.ticket) :
      Advances terms b d
        ({ b with queue := { b.queue with tasks := ts } }.record [.started terms.request t.id])
        (.go e)
  /-- The task in flight registers another one. -/
  | registered {task : Task} {e : Drain} (hr : d.registers? = some task)
      (hf : d.inFlight = 1) (hs : d.SameWork e) :
      Advances terms b d (b.register task) (.go e)
  | noted {text : String} {e : Drain} (hr : d.registers? = none) (hf : d.inFlight = 1)
      (hs : d.SameWork e) :
      Advances terms b d (b.record [.note text]) (.go e)
  /-- The task in flight goes on, steps aside or falls asleep. -/
  | rested {turn : Turn} (hr : d.registers? = none) (hf : d.inFlight = 1)
      (hs : d.SameWork turn.drain) (hu : turn.isUnderWay = true) :
      Advances terms b d b turn
  /-- The task in flight ends, in whatever way. -/
  | concluded {o : Outcome} {events : List Event} {e : Drain} (hr : d.registers? = none)
      (ht : d.activity.ticket? = some o.ticket) (hi : e.activity = .idle)
      (ho : e.outcomes = d.outcomes ++ [o]) (hn : ∀ ev ∈ events, ev.request? = none) :
      Advances terms b d { b.record events with pending := b.pending.release 1 } (.go e)

theorem request?_failureEvents {terms : Terms} {id : Nat} {source : String} {failure : Failure} :
    ∀ ev ∈ failureEvents terms id source failure, ev.request? = none := by
  intro ev hev
  unfold failureEvents at hev
  rcases List.mem_append.mp hev with hl | ha
  · obtain ⟨text, _, rfl⟩ := List.mem_map.mp hl
    rfl
  · rw [List.mem_singleton.mp ha]
    rfl

theorem advances_of_conclude {terms : Terms} {b c : Bench} {d e : Drain} {id : Nat}
    {source : String} {label : Option String} {failure : Option Failure} {turn : Turn}
    (h : conclude terms b e id source label failure = (c, turn)) (hr : d.registers? = none)
    (ht : d.activity.ticket? = some ⟨id, source, label⟩) (ho : e.outcomes = d.outcomes) :
    Advances terms b d c turn := by
  unfold conclude at h
  obtain ⟨rfl, rfl⟩ := Prod.mk.inj h
  refine .concluded (o := ⟨id, source, label, failure⟩) hr ht rfl ?_ ?_
  · show e.outcomes ++ _ = d.outcomes ++ _
    rw [ho]
  · intro ev hev
    cases failure with
    | none => cases hev
    | some f => exact request?_failureEvents ev hev

theorem advances_of_takeUp {terms : Terms} {b c : Bench} {d : Drain} {turn : Turn}
    (hi : d.activity = .idle) (h : takeUp terms b d = (c, turn)) :
    Advances terms b d c turn := by
  unfold takeUp at h
  cases hq : b.queue.tasks with
  | nil =>
    rw [Queue.take_of_nil hq] at h
    obtain ⟨rfl, rfl⟩ := Prod.mk.inj h
    exact .closed hi hq
  | cons t ts =>
    rw [Queue.take_of_cons hq] at h
    obtain ⟨rfl, rfl⟩ := Prod.mk.inj h
    exact .taken hi hq rfl rfl

/-- An effect that is carried out registers a task or leaves a note. -/
theorem advances_of_perform {terms : Terms} {b c : Bench} {d e : Drain} {effect : Effect Task}
    (h : b.perform effect = .ok c) (he : d.effect? = some effect) (hf : d.inFlight = 1)
    (hs : d.SameWork e) : Advances terms b d c (.go e) := by
  cases effect with
  | note text =>
    obtain rfl := Except.ok.inj h
    exact .noted (by simp [Drain.registers?, he]) hf hs
  | observe =>
    obtain rfl := Except.ok.inj h
    exact .noted (by simp [Drain.registers?, he]) hf hs
  | register task =>
    obtain rfl := Except.ok.inj h
    exact .registered (by simp [Drain.registers?, he]) hf hs
  | panic payload => cases h

theorem registers?_of_panic {b : Bench} {d : Drain} {effect : Effect Task} {payload : Payload}
    (h : b.perform effect = .error payload) (he : d.effect? = some effect) :
    d.registers? = none := by
  cases effect with
  | panic => simp [Drain.registers?, he]
  | _ => cases h

theorem advances_of_setUp {terms : Terms} {now : Nat} {b c : Bench} {d : Drain} {t : Queued}
    {rest : List (Effect Task)} {turn : Turn} (ha : d.activity = .settingUp t rest)
    (h : setUp terms now b d t rest = (c, turn)) : Advances terms b d c turn := by
  have hf : d.inFlight = 1 := by unfold Drain.inFlight; rw [ha]
  have ht : d.activity.ticket? = some t.ticket := by rw [ha]; rfl
  cases rest with
  | nil =>
    obtain ⟨rfl, rfl⟩ := Prod.mk.inj h
    have hr : d.registers? = none := by simp [Drain.registers?, Drain.effect?, ha]
    exact .rested hr hf ⟨rfl, ht.symm⟩ rfl
  | cons effect rest =>
    have he : d.effect? = some effect := by simp [Drain.effect?, ha]
    simp only [setUp] at h
    split at h
    · next hp =>
      obtain ⟨rfl, rfl⟩ := Prod.mk.inj h
      exact advances_of_perform hp he hf ⟨rfl, ht.symm⟩
    · next hp => exact advances_of_conclude h (registers?_of_panic hp he) ht rfl

theorem advances_of_timeOut {terms : Terms} {b c : Bench} {d e : Drain} {f : Flight}
    {turn : Turn} (h : timeOut terms b e f = (c, turn)) (hr : d.registers? = none)
    (ht : d.activity.ticket? = some ⟨f.id, f.source, f.label⟩)
    (ho : e.outcomes = d.outcomes) : Advances terms b d c turn := by
  unfold timeOut at h
  exact advances_of_conclude h hr ht ho

theorem advances_of_pause {terms : Terms} {now : Nat} {b c : Bench} {d : Drain} {f : Flight}
    {turn : Turn} (h : pause terms now b d f = (c, turn)) (hr : d.registers? = none)
    (hf : d.inFlight = 1) (ht : d.activity.ticket? = some ⟨f.id, f.source, f.label⟩) :
    Advances terms b d c turn := by
  unfold pause at h
  split at h
  · exact advances_of_timeOut h hr ht rfl
  · obtain ⟨rfl, rfl⟩ := Prod.mk.inj h
    exact .rested hr hf ⟨rfl, ht.symm⟩ rfl

theorem advances_of_fly {terms : Terms} {now : Nat} {b c : Bench} {d : Drain} {f : Flight}
    {turn : Turn} (ha : d.activity = .flying f) (h : fly terms now b d f = (c, turn)) :
    Advances terms b d c turn := by
  have hf : d.inFlight = 1 := by unfold Drain.inFlight; rw [ha]
  have ht : d.activity.ticket? = some ⟨f.id, f.source, f.label⟩ := by rw [ha]; rfl
  -- Unless its next step is an effect, a task registers nothing.
  have hr : (∀ e rest, f.rest ≠ .effect e :: rest) → d.registers? = none := by
    intro hne
    unfold Drain.registers? Drain.effect?
    rw [ha]
    dsimp only
    split
    · next task he =>
      split at he
      · next hfr => exact absurd hfr (hne _ _)
      · cases he
    · rfl
  unfold fly at h
  split at h
  · next hfr => exact advances_of_conclude h (hr (by simp [hfr])) ht rfl
  · next effect rest hfr =>
    have he : d.effect? = some effect := by simp [Drain.effect?, ha, hfr]
    split at h
    · next hp =>
      obtain ⟨rfl, rfl⟩ := Prod.mk.inj h
      exact advances_of_perform hp he hf ⟨rfl, ht.symm⟩
    · next hp => exact advances_of_conclude h (registers?_of_panic hp he) ht rfl
  · next hfr => exact advances_of_conclude h (hr (by simp [hfr])) ht rfl
  · next hfr => exact advances_of_pause h (hr (by simp [hfr])) hf ht
  · next hfr =>
    have hn := hr (by simp [hfr])
    split at h
    · exact advances_of_pause h hn hf ht
    · split at h
      · obtain ⟨rfl, rfl⟩ := Prod.mk.inj h
        exact .rested hn hf ⟨rfl, ht.symm⟩ rfl
      · split at h
        · exact advances_of_timeOut h hn ht rfl
        · obtain ⟨rfl, rfl⟩ := Prod.mk.inj h
          exact .rested hn hf ⟨rfl, ht.symm⟩ rfl

/-- A step of a drain does one of the things that `Advances` lists. -/
theorem advances_of_step {terms : Terms} {now : Nat} {b c : Bench} {d : Drain} {turn : Turn}
    (h : step terms now b d = (c, turn)) : Advances terms b d c turn := by
  unfold step at h
  split at h
  · next ha => exact advances_of_takeUp ha h
  · next ha => exact advances_of_setUp ha h
  · next ha => exact advances_of_fly ha h
  · next f wake ha =>
    have hf : d.inFlight = 1 := by unfold Drain.inFlight; rw [ha]
    have ht : d.activity.ticket? = some ⟨f.id, f.source, f.label⟩ := by rw [ha]; rfl
    have hr : d.registers? = none := by simp [Drain.registers?, Drain.effect?, ha]
    split at h
    · obtain ⟨rfl, rfl⟩ := Prod.mk.inj h
      exact .rested hr hf ⟨rfl, ht.symm⟩ rfl
    · split at h
      · exact advances_of_timeOut h hr ht rfl
      · obtain ⟨rfl, rfl⟩ := Prod.mk.inj h
        exact .rested hr hf ⟨rfl, rfl⟩ rfl

end EdgeRender.Deferred
