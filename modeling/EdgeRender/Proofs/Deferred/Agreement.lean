import EdgeRender.Proofs.Deferred.Foresight
import EdgeRender.Proofs.Deferred.Locality
import EdgeRender.Proofs.Deferred.Progress
import Mathlib.Algebra.Group.Nat.Defs

/-! # A drain agrees with the tour of its forest

A forest is registered with a new scheduler, and its drain is waited for. The drain comes to
its end, and it comes to what the tour of the forest says: the outcomes, and everything that
the drain writes. Whatever else goes on in the loop meanwhile makes no difference, as long as
nobody else drains the same queue.
-/
namespace EdgeRender.Deferred

variable {terms : Terms} {outcomes : List Outcome} {goal : List Event → Prop} {b c : Bench}
  {d e : Drain}

/-- What is to come follows from the queue, whatever else has been written and acquired. -/
theorem Foresees.of_queue {now : Nat} (h : Foresees terms outcomes goal now b d)
    (hq : c.queue = b.queue) : Foresees terms outcomes goal now c d := by
  cases h with
  | idle hi hold ho hg => exact .idle hi (hq ▸ hold) ho hg
  | carrying hc h hp => exact .carrying hc ⟨hq ▸ h.queue, h.outcomes, h.goal⟩ hp

namespace EventLoop

variable {l m : EventLoop} {k time : Nat} {s : Scheduler} {told : List Event}

/-! ## What is told by the one who waits -/

section

variable {α σ : Type}

/-- A look that also keeps what has been written in all looks so far. What is written between
them has been written by others. -/
def telling (look : EventLoop → σ → Look α σ × EventLoop) (l : EventLoop)
    (p : σ × List Event) : Look (α × List Event) (σ × List Event) × EventLoop :=
  let (answer, m) := look l p.1
  let told := p.2 ++ m.journal.drop l.journal.length
  match answer with
  | .over a => (.over (a, told), m)
  | .aside s => (.aside (s, told), m)
  | .waiting time s => (.waiting time (s, told), m)

/-- Who keeps what is told waits no differently. -/
theorem waitFrom_telling (look : EventLoop → σ → Look α σ × EventLoop) (bound : Nat)
    (l : EventLoop) (s : σ) (told : List Event) :
    (waitFrom (telling look) bound l (s, told)).1.map Prod.fst = (waitFrom look bound l s).1 ∧
      (waitFrom (telling look) bound l (s, told)).2 = (waitFrom look bound l s).2 := by
  induction bound generalizing l s told with
  | zero => exact ⟨rfl, rfl⟩
  | succ bound ih =>
    obtain ⟨answer, m, hl⟩ : ∃ answer m, look l s = (answer, m) := ⟨_, _, rfl⟩
    unfold waitFrom telling
    rw [hl]
    rcases answer with a | s' | ⟨time, s'⟩
    · exact ⟨rfl, rfl⟩
    · exact ih _ s' _
    · dsimp only
      split
      · split
        · exact ⟨rfl, rfl⟩
        · exact ih _ s' _
      · exact ih _ s' _

end

/-! ## Waiting for a drain -/

/-- The drain `d` of a scheduler is waited for, and these outcomes are to come if its next
turn has so much room and begins at the given time at the latest. -/
structure Awaited (terms : Terms) (outcomes : List Outcome) (goal : List Event → Prop)
    (room time : Nat) (l : EventLoop) (d : Drain) : Prop where
  orderly : l.Orderly
  /-- Nobody else drains the queue. -/
  alone : l.drainsOf terms.request = []
  scheduler : ∃ s, l.schedulers[terms.request]? = some s ∧
    l.termsOf terms.request s none = terms
  foresees : ∀ now, l.now ≤ now → now ≤ time →
    Foresees terms outcomes goal now (l.bench terms.request) (d.beginTurn room)

/-- The drain has come to its end as it was to come. -/
structure Ends (k : Nat) (outcomes : List Outcome) (goal : List Event → Prop) (l : EventLoop)
    (told own : List Event) (result : Option (Option Report × List Event) × EventLoop) :
    Prop where
  answer : result.1 = some (some ⟨outcomes⟩, told ++ own)
  goal : goal own
  journal : ∃ events, result.2.journal = l.journal ++ events ∧ own.Sublist events
  queue : ∃ n, result.2.queue k = ⟨[], n, true⟩

/-- What is left to be done by the drain and by all others. -/
def toil (l : EventLoop) (d : Drain) : Nat :=
  l.burden + d.weight

/-- Somebody has come closer to the end: there is less to do, or there was nothing to do at
the time, but there is now. -/
def Closer (l : EventLoop) (d : Drain) (m : EventLoop) (e : Drain) : Prop :=
  m.toil e < l.toil d ∨ ¬ d.IsDue l.now ∧ l.line = [] ∧ m.toil e ≤ l.toil d ∧
    (e.IsDue m.now ∨ m.line ≠ [])

/-- Others leave the scheduler alone. -/
theorem Awaited.spared {room room' : Nat} (h : Awaited terms outcomes goal room time l d)
    (hs : Spares terms.request l m) (ho : m.Orderly) (hn : l.now ≤ m.now)
    (hr : room' = room) : Awaited terms outcomes goal room' time m d := by
  obtain ⟨s, hsch, hterms⟩ := h.scheduler
  have hqueue : (m.bench terms.request).queue = (l.bench terms.request).queue := by
    show m.queue terms.request = l.queue terms.request
    unfold queue
    rw [hs.scheduler]
  refine ⟨ho, hs.drains.trans h.alone, ⟨s, hs.scheduler.trans hsch, ?_⟩, ?_⟩
  · rw [← hterms]
    unfold termsOf
    rw [hs.elapsed]
  · intro now hnow htime
    rw [hr]
    exact (h.foresees now (Nat.le_trans hn hnow) htime).of_queue hqueue

/-! ### A look -/

/-- What a look comes to: the turn of the drain, its bench and what it writes. -/
structure Looks (terms : Terms) (outcomes : List Outcome) (goal : List Event → Prop)
    (l : EventLoop) (d : Drain) (b : Bench) (turn : Turn) (events : List Event) : Prop where
  eq : l.turn? terms.request l.credit none d = some (turn, l.putBench terms.request b)
  journal : b.journal = l.journal ++ events
  foreseen : Foreseen terms outcomes (fun rest => goal (events ++ rest)) l.now b turn
  rests : ∀ e, turn ≠ .go e
  punctual : turn.IsPunctual l.now
  toil : (l.putBench terms.request b).toil turn.drain ≤ l.toil d
  less : l.credit ≠ 0 → d.IsDue l.now → (∃ e, turn = .finished e) ∨
    (l.putBench terms.request b).toil turn.drain < l.toil d

theorem toil_putBench {request : Nat} {s : Scheduler} (hs : l.schedulers[request]? = some s)
    (b : Bench) (d : Drain) : (l.putBench request b).toil d + (l.queue request).weight
      = l.burden + (b.queue.weight + d.weight) := by
  have hwork := work_putBench b hs
  have hqueue : l.queue request = s.queue := by
    unfold queue
    rw [hs]
  have hburden : (l.putBench request b).burden + l.work
      = (l.putBench request b).work + l.burden := by
    have hstale : (l.putBench request b).burden = (l.putBench request b).work
        + l.line.countP fun k => !l.canGo k := rfl
    unfold burden at hstale ⊢
    omega
  unfold toil
  rw [hqueue]
  omega

theorem Awaited.looks (h : Awaited terms outcomes goal l.credit time l d) (ht : l.now ≤ time) :
    ∃ b turn events, Looks terms outcomes goal l d b turn events := by
  obtain ⟨s, hs, hterms⟩ := h.scheduler
  have hu : terms.giveUpAt = none := by rw [← hterms]; rfl
  obtain ⟨b, turn, hc⟩ : ∃ b turn, burst terms l.now l.credit (l.bench terms.request) d
      = (b, turn) := ⟨_, _, rfl⟩
  have hforesees := h.foresees l.now (Nat.le_refl _) ht
  obtain ⟨events, hj, hforeseen⟩ := proceeds_of_runBurst hu hforesees hc
  obtain ⟨hle, hpunctual, -⟩ := weight_le_of_runBurst hu (Nat.lt_succ_self _) hc
  have htoil := toil_putBench hs b turn.drain
  have hweight : (l.bench terms.request).queue.weight = (l.queue terms.request).weight := rfl
  have hbegin : (d.beginTurn l.credit).weight = d.weight := d.weight_beginTurn l.credit
  refine ⟨b, turn, events, ?_, hj, hforeseen, ?_, hpunctual, ?_, ?_⟩
  · simp only [turn?, hs, hterms, hc, Option.map_some]
  · rintro e rfl
    exact burst_ne_go _ _ _ _ _ _ _ hc
  · unfold toil at htoil ⊢
    omega
  · intro hcredit hdue
    obtain ⟨hlight, -⟩ := lightens_of_burst hu hcredit hdue hc
    cases hlight with
    | finished => exact .inl ⟨_, rfl⟩
    | goesOn _ hw =>
      refine .inr ?_
      unfold toil at htoil ⊢
      omega

/-! ### Between two looks -/

theorem earlier_le {a : Option Nat} {t : Nat} (h : earlier a (some time) = some t) : t ≤ time := by
  cases a with
  | none => exact Nat.le_of_eq (Option.some.inj h).symm
  | some x =>
    obtain rfl := Option.some.inj h
    exact Nat.min_le_right x time

theorem Awaited.putBench {room time' : Nat} {goal' : List Event → Prop}
    (h : Awaited terms outcomes goal room time l d)
    (hf : ∀ now, l.now ≤ now → now ≤ time' →
      Foresees terms outcomes goal' now b (e.beginTurn allowance)) :
    Awaited terms outcomes goal' allowance time' (l.putBench terms.request b) e := by
  obtain ⟨s, hs, hterms⟩ := h.scheduler
  refine ⟨h.orderly.of_eq rfl rfl, h.alone, ⟨_, schedulers_putBench b hs, hterms⟩, ?_⟩
  rw [bench_putBench b hs]
  exact hf

/-- The wait goes on in the loop `m`, where the drain is looked at again: others have done
something, or the clock has moved to a time for which something is due. -/
structure Onward (terms : Terms) (outcomes : List Outcome) (goal : List Event → Prop)
    (l : EventLoop) (d : Drain) (m : EventLoop) (time : Nat) : Prop where
  awaited : Awaited terms outcomes goal m.credit time m d
  inTime : m.now ≤ time
  credit : m.credit ≠ 0
  toil : m.toil d ≤ l.toil d
  less : l.line ≠ [] → m.toil d < l.toil d
  awake : l.line = [] → d.IsDue m.now ∨ m.line ≠ []
  journal : l.journal <+: m.journal

/-- There is a round. -/
theorem Awaited.round (h : Awaited terms outcomes goal allowance time l d) (ht : l.now ≤ time)
    (hd : l.line = [] → d.IsDue l.now) :
    Onward terms outcomes goal l d l.runRound.refill time := by
  obtain ⟨hord, hnow, hless⟩ := runRound_of_orderly h.orderly
  have hspares : Spares terms.request l l.runRound.refill :=
    (Spares.runRound h.alone).trans (.of_eq rfl rfl rfl rfl)
  have hburden : l.runRound.refill.burden = l.runRound.burden := rfl
  have hsame : l.runRound.refill.now = l.now := hnow
  refine ⟨h.spared hspares (hord.of_eq rfl rfl) (Nat.le_of_eq hnow.symm) rfl, ?_,
    credit_refill _, ?_, ?_, ?_, hspares.journal⟩
  · rw [hsame]
    exact ht
  · have hle := burden_runRound_le h.orderly
    unfold toil
    omega
  · intro hline
    have hlt := hless hline
    unfold toil
    omega
  · intro hline
    rw [hsame]
    exact .inl (hd hline)

/-- The clock moves. -/
theorem Awaited.clock {t : Nat} (h : Awaited terms outcomes goal allowance time l d)
    (ht : l.now ≤ time) (hline : l.line = []) (hd : d.IsDue time)
    (hn : earlier l.nextDue? (some time) = some t) :
    Onward terms outcomes goal l d (l.moveClock t).refill time := by
  obtain ⟨hord, hburden⟩ := moveClock_of_orderly h.orderly t
  have hspares : Spares terms.request l (l.moveClock t).refill := .of_eq rfl rfl rfl rfl
  have hwork : l.work ≤ l.burden := Nat.le_add_right _ _
  have hsame : (l.moveClock t).refill.burden = (l.moveClock t).burden := rfl
  refine ⟨h.spared hspares (hord.of_eq rfl rfl) (Nat.le_max_right t l.now) rfl,
    Nat.max_le.mpr ⟨earlier_le hn, ht⟩, credit_refill _, ?_, fun hne => absurd hline hne, ?_,
    hspares.journal⟩
  · unfold toil
    omega
  · intro _
    by_cases hempty : (l.moveClock t).line = []
    · exact .inl (hd.mono (due_le_of_moveClock hn hempty))
    · exact .inr hempty

/-- What is written in a look comes before what is written afterwards. -/
theorem Ends.after {events own : List Event}
    {result : Option (Option Report × List Event) × EventLoop}
    (hj : b.journal = l.journal ++ events) (hm : b.journal <+: m.journal)
    (h : Ends k outcomes (fun rest => goal (events ++ rest)) m (told ++ events) own result) :
    Ends k outcomes goal l told (events ++ own) result := by
  obtain ⟨between, hbetween⟩ := hm
  obtain ⟨rest, hrest, hsub⟩ := h.journal
  refine ⟨?_, h.goal, ⟨events ++ (between ++ rest), ?_, ?_⟩, h.queue⟩
  · rw [h.answer, List.append_assoc]
  · rw [hrest, ← hbetween, hj]
    simp only [List.append_assoc]
  · exact (List.Sublist.refl events).append (hsub.trans (List.sublist_append_right _ _))

/-! ### Looks until the end -/

/-- When the wait goes on after a look, it has come closer to its end. -/
theorem Looks.closer {turn : Turn} {events : List Event} {goal' : List Event → Prop}
    (hl : Looks terms outcomes goal l d b turn events) (hu : turn.isUnderWay = true)
    (ho : Onward terms outcomes goal' (l.putBench terms.request b) turn.drain m time)
    (hc : l.credit ≠ 0) : l.Closer d m turn.drain := by
  by_cases hdue : d.IsDue l.now
  · rcases hl.less hc hdue with ⟨e, rfl⟩ | hless
    · cases hu
    · exact .inl (Nat.lt_of_le_of_lt ho.toil hless)
  · by_cases hline : l.line = []
    · exact .inr ⟨hdue, hline, Nat.le_trans ho.toil hl.toil, ho.awake hline⟩
    · exact .inl (Nat.lt_of_lt_of_le (ho.less hline) hl.toil)

/-- A look ends the wait, or the wait goes on. -/
theorem Looks.ends {bound : Nat} {turn : Turn} {events : List Event}
    (h : Awaited terms outcomes goal l.credit time l d)
    (hl : Looks terms outcomes goal l d b turn events)
    (hgo : turn.isUnderWay = true → ∀ (m : EventLoop) (time' : Nat),
      Onward terms outcomes (fun rest => goal (events ++ rest)) (l.putBench terms.request b)
        turn.drain m time' →
      ∃ own, Ends terms.request outcomes (fun rest => goal (events ++ rest)) m (told ++ events)
        own (waitFrom (telling (lookDrain terms.request none)) bound m
          (turn.drain, told ++ events))) :
    ∃ own, Ends terms.request outcomes goal l told own
      (waitFrom (telling (lookDrain terms.request none)) (bound + 1) l (d, told)) := by
  obtain ⟨s, hs, -⟩ := h.scheduler
  have hdrop : ∀ m : EventLoop, m.journal = b.journal →
      m.journal.drop l.journal.length = events := by
    intro m hm
    rw [hm, hl.journal, List.drop_left]
  have hforeseen := hl.foreseen
  have hpunctual := hl.punctual
  unfold waitFrom telling lookDrain
  rw [hl.eq]
  -- On these terms a drain is not given up, and a turn does not end while the drain goes on.
  cases turn with
  | finished e =>
    obtain ⟨rfl, hgoal, hqueue⟩ := hforeseen
    rw [List.append_nil] at hgoal
    dsimp only
    rw [hdrop { l.putBench terms.request b with credit := e.room } rfl]
    refine ⟨events, rfl, hgoal, ⟨events, hl.journal, .refl events⟩, b.queue.nextId, ?_⟩
    have hbench := congrArg Bench.queue (bench_putBench b hs)
    exact hbench.trans hqueue
  | givenUp e => exact hforeseen.elim
  | go e => exact absurd rfl (hl.rests e)
  | paused e =>
    have hnext : Awaited terms outcomes (fun rest => goal (events ++ rest)) allowance l.now
        (l.putBench terms.request b) e := by
      refine h.putBench fun now hge hle => ?_
      obtain rfl := Nat.le_antisymm hge hle
      exact hforeseen
    have honward := hnext.round (Nat.le_refl _) fun _ => hpunctual
    dsimp only
    rw [hdrop (l.putBench terms.request b) rfl]
    obtain ⟨own, hends⟩ := hgo rfl _ l.now honward
    exact ⟨_, hends.after hl.journal honward.journal⟩
  | waiting due e =>
    obtain ⟨hafter, hforeseen⟩ := hforeseen
    have hinTime : (l.putBench terms.request b).now ≤ due := Nat.le_of_lt hafter
    have hnext : Awaited terms outcomes (fun rest => goal (events ++ rest)) allowance due
        (l.putBench terms.request b) e := h.putBench fun now _ hle => hforeseen now hle
    dsimp only
    rw [hdrop (l.putBench terms.request b) rfl]
    -- With nobody in the line the clock moves, at the latest to the time that the drain waits for.
    split
    · next hempty =>
      obtain ⟨t, hn⟩ : ∃ t, earlier (l.putBench terms.request b).nextDue? (some due) = some t := by
        cases (l.putBench terms.request b).nextDue? <;> exact ⟨_, rfl⟩
      have honward := hnext.clock hinTime (List.isEmpty_iff.mp hempty) hpunctual hn
      rw [hn]
      obtain ⟨own, hends⟩ := hgo rfl _ due honward
      exact ⟨_, hends.after hl.journal honward.journal⟩
    · next hempty =>
      have honward := hnext.round hinTime fun hnil => absurd (List.isEmpty_iff.mpr hnil) hempty
      obtain ⟨own, hends⟩ := hgo rfl _ due honward
      exact ⟨_, hends.after hl.journal honward.journal⟩

/-- Twice the toil bounds the looks of a wait that has some allowance. -/
theorem Awaited.ends_of_credit {bound : Nat}
    (h : Awaited terms outcomes goal l.credit time l d) (ht : l.now ≤ time) (hc : l.credit ≠ 0)
    (hb : 2 * l.toil d < bound)
    (ha : (d.IsDue l.now ∨ l.line ≠ []) ∨ 2 * l.toil d + 1 < bound) :
    ∃ own, Ends terms.request outcomes goal l told own
      (waitFrom (telling (lookDrain terms.request none)) bound l (d, told)) := by
  induction bound generalizing l d goal time told with
  | zero => omega
  | succ bound ih =>
    obtain ⟨b, turn, events, hl⟩ := h.looks ht
    refine hl.ends h fun hu m time' ho => ?_
    rcases hl.closer hu ho hc with hlt | ⟨hdue, hline, hle, hawake⟩
    · exact ih ho.awaited ho.inTime ho.credit (by omega) (.inr (by omega))
    · have hroom : 2 * l.toil d + 1 < bound + 1 := by
        rcases ha with (hd | hn) | hroom
        · exact absurd hd hdue
        · exact absurd hline hn
        · exact hroom
      exact ih ho.awaited ho.inTime ho.credit (by omega) (.inl hawake)

/-- Waiting for a drain that has not begun comes to an end as it was to come. -/
theorem Awaited.ends (h : Awaited terms outcomes goal l.credit l.now l {}) :
    ∃ own, Ends terms.request outcomes goal l [] own
      (l.wait (telling (lookDrain terms.request none)) ({}, [])) := by
  have hle : l.toil {} ≤ l.work + l.jobs.length := burden_le h.orderly
  unfold wait
  by_cases hc : l.credit = 0
  · -- The first look may be one that only steps aside.
    obtain ⟨b, turn, events, hl⟩ := h.looks (Nat.le_refl _)
    refine hl.ends h fun _ m time' ho => ?_
    have htoil := Nat.le_trans ho.toil hl.toil
    exact ho.awaited.ends_of_credit ho.inTime ho.credit (by omega) (.inr (by omega))
  · exact h.ends_of_credit (Nat.le_refl _) hc (by omega) (.inr (by omega))

/-! ## A forest is registered and drained -/

/-- A forest has been registered with a scheduler. -/
structure Registered (request : Nat) (s : Scheduler) (l : EventLoop) (ts : List Task)
    (m : EventLoop) : Prop where
  orderly : m.Orderly
  alone : m.drainsOf request = []
  scheduler : ∃ s', m.schedulers[request]? = some s' ∧
    m.termsOf request s' none = l.termsOf request s none
  queue : (m.queue request).Holds 0 ts
  journal : m.journal = l.journal
  credit : m.credit = l.credit

theorem Registered.concat {request : Nat} {ts : List Task} (h : Registered request s l ts m)
    (task : Task) : Registered request s l (ts ++ [task]) (m.register request task) := by
  obtain ⟨s', hs, hterms⟩ := h.scheduler
  have hopen := h.queue.isOpen
  have hregister : (m.bench request).register task = _ :=
    Bench.register_of_open (b := m.bench request) hopen task
  have hlen : (ts ++ [task]).length = ts.length + 1 := List.length_append
  have hbench := bench_putBench ((m.bench request).register task) hs
  refine ⟨h.orderly.of_eq rfl rfl, h.alone, ⟨_, schedulers_putBench _ hs, hterms⟩, ?_, ?_,
    h.credit⟩
  · have hqueue : (m.register request task).queue request
        = ((m.bench request).register task).queue := congrArg Bench.queue hbench
    rw [hqueue, hregister]
    refine ⟨?_, ?_, hopen⟩
    · show (m.queue request).tasks ++ [⟨(m.queue request).nextId, task⟩] = _
      rw [h.queue.tasks, h.queue.nextId, numberFrom_concat]
    · show (m.queue request).nextId + 1 = _
      rw [h.queue.nextId, hlen]
      omega
  · show ((m.bench request).register task).journal = _
    rw [hregister]
    exact h.journal

theorem registered_foldl (hl : l.Orderly) (halone : l.drainsOf k = [])
    (hs : l.schedulers[k]? = some s) (hn : s.queue = {}) (ts : List Task) :
    Registered k s l ts (ts.foldl (fun l t => l.register k t) l) := by
  have hstart : Registered k s l [] l := by
    refine ⟨hl, halone, ⟨s, hs, rfl⟩, ?_, rfl, rfl⟩
    have hqueue : l.queue k = {} := by
      unfold queue
      rw [hs]
      exact hn
    rw [hqueue]
    exact ⟨rfl, rfl, rfl⟩
  have hall : ∀ (done rest : List Task) (m : EventLoop), Registered k s l done m →
      Registered k s l (done ++ rest) (rest.foldl (fun l t => l.register k t) m) := by
    intro done rest
    induction rest generalizing done with
    | nil =>
      intro m hm
      rw [List.append_nil]
      exact hm
    | cons task rest ih =>
      intro m hm
      have hnext := ih (done ++ [task]) _ (hm.concat task)
      rw [List.append_assoc] at hnext
      exact hnext
  exact hall [] ts l hstart

/-- A forest that has been registered is drained as its tour says. -/
theorem Registered.ends {ts : List Task} (h : Registered k s l ts m) :
    let visits := tour s.limit l.credit ts
    ∃ own, Ends k (outcomesFrom 0 visits) (Tells (l.termsOf k s none) 0 visits) m [] own
      (m.wait (telling (lookDrain k none)) ({}, [])) := by
  intro visits
  have hawaited : Awaited (l.termsOf k s none) (outcomesFrom 0 visits)
      (Tells (l.termsOf k s none) 0 visits) m.credit m.now m {} := by
    refine ⟨h.orderly, h.alone, h.scheduler, fun now _ _ => .idle rfl h.queue ?_ ?_⟩
    · rw [h.credit]
      rfl
    · rw [h.credit]
      exact fun _ htells => htells
  exact hawaited.ends

end EventLoop

/-! ## What is in the tour -/

theorem map_task_outcomesFrom (id : Nat) (vs : List Visit) :
    (outcomesFrom id vs).map (·.task) = List.range' id vs.length := by
  induction vs generalizing id with
  | nil => rfl
  | cons v vs ih =>
    rw [outcomesFrom, List.map_cons, ih, List.length_cons, List.range'_succ]

def errorEntry (terms : Terms) (id : Nat) (source : String) (failure : Failure) : Log.Entry where
  level := .error
  message := "Error in deferred task"
  requestId := terms.logger.requestId
  route := terms.logger.route
  fields := [("error", .string failure.message), ("source", .string source),
    ("task_id", .natural (id % 2 ^ 64))]
  elapsedMicros := terms.elapsedMicros

/-- A failure is logged, whatever the least level of the logger, and the operator is
alerted. -/
theorem failureEvents_eq (terms : Terms) (id : Nat) (source : String) (failure : Failure) :
    failureEvents terms id source failure =
      [.line ((errorEntry terms id source failure).text terms.logger.format),
        .alert (.taskFailed id source failure.message)] := by
  have hgrave : ¬ Log.Level.error.rank < terms.logger.minLevel.rank := by
    cases terms.logger.minLevel <;> decide
  have hfields : Log.fieldsOf [.number "task_id" (.ofNat id), .text "source" source,
      .text "error" failure.message] = (errorEntry terms id source failure).fields := by
    have hsource : "source" < "task_id" := by decide
    have herror : "error" < "source" := by decide
    simp only [Log.fieldsOf, Log.Field.name, Log.Field.value, Json.insertMember, List.foldl_cons,
      List.foldl_nil, if_pos hsource, if_pos herror]
    rfl
  unfold failureEvents Log.Logger.line?
  rw [if_neg hgrave, hfields]
  rfl

/-- The line about a task that failed; there is none about others. -/
def errorLine? (terms : Terms) (o : Outcome) : Option String :=
  o.failure.map fun f => (errorEntry terms o.task o.source f).text terms.logger.format

theorem Notes.lines {queued : Nat} {es : List (Effect Task)} {events : List Event}
    (h : Notes queued es events) : Journal.lines events = [] := by
  induction h with
  | nil queued => rfl
  | note text h ih => exact ih
  | observe pending h ih => exact ih
  | register task h ih => exact ih

/-- The lines that a tour tells are those about the tasks that failed, in order. -/
theorem Tells.lines {id : Nat} {vs : List Visit} {events : List Event}
    (h : Tells terms id vs events) :
    Journal.lines events = (outcomesFrom id vs).filterMap (errorLine? terms) := by
  induction h with
  | nil id => rfl
  | @cons id v vs notes rest hn h ih =>
    have hstarted : ∀ j : Journal, Journal.lines (.started terms.request id :: j)
        = Journal.lines j := fun _ => rfl
    rw [hstarted, Journal.lines_append, Journal.lines_append, hn.lines, List.nil_append, ih,
      outcomesFrom, List.filterMap_cons]
    cases v.course.failure with
    | none => rfl
    | some failure => simp [endOf, errorLine?, failureEvents_eq, Journal.lines, Event.line?]

/-- A forest is registered with a new scheduler and drained, while others do what they like.
The drain comes to an end, and it agrees with the tour of the forest: it takes up the tasks
of the forest and then those that are registered on the way, in the order of their
registration and each once; each task takes the course that follows from its program, the
time limit and the room left in the turn in which it is taken up; and the report and all that
the drain itself has written tell of these courses in this order. One line is logged about
each task that failed, in order, and none about others. With any time limit but none at all the
room does not matter: what a task does and how it ends follows from its program and the time
limit alone. -/
theorem drain_agrees {l : EventLoop} {k : Nat} {s : Scheduler} (hl : l.Orderly)
    (halone : l.drainsOf k = []) (hs : l.schedulers[k]? = some s) (hnew : s.queue = {})
    (ts : List Task) :
    let terms := l.termsOf k s none
    let visits := tour s.limit l.credit ts
    let report : Report := ⟨outcomesFrom 0 visits⟩
    let registered := ts.foldl (fun l t => l.register k t) l
    ∃ m own, registered.drain k none = (some report, m) ∧
      registered.wait (EventLoop.telling (EventLoop.lookDrain k none)) ({}, [])
        = (some (some report, own), m) ∧
      (∃ events, m.journal = l.journal ++ events ∧ own.Sublist events) ∧
      Tells terms 0 visits own ∧
      Journal.lines own = report.outcomes.filterMap (errorLine? terms) ∧
      (∃ n, m.queue k = ⟨[], n, true⟩) ∧
      report.order = List.range visits.length ∧
      visits.map Visit.task = ts ++ visits.flatMap (·.course.registered) ∧
      (∀ v ∈ visits, ∃ room, v.course = v.task.course s.limit room) ∧
      (s.limit ≠ .ofMillis 0 →
        ∀ v ∈ visits, ∀ room, (v.task.course s.limit room).Same v.course) := by
  intro terms visits report registered
  have hregistered := EventLoop.registered_foldl hl halone hs hnew ts
  obtain ⟨own, hends⟩ := hregistered.ends
  obtain ⟨answer, m, hw⟩ : ∃ answer m,
      registered.wait (EventLoop.telling (EventLoop.lookDrain k none)) ({}, []) = (answer, m) :=
    ⟨_, _, rfl⟩
  -- To keep what is written does not change the wait: what holds of `hw` holds of the drain itself.
  have hplain := EventLoop.waitFrom_telling (EventLoop.lookDrain k none)
    (2 * (registered.work + registered.jobs.length) + 5) registered {} []
  rw [hw] at hends
  obtain rfl : answer = some (some report, own) := hends.answer
  have htells : Tells terms 0 visits own := hends.goal
  have hcourse := course_of_mem_tour s.limit l.credit ts
  refine ⟨m, own, ?_, hw, ?_, htells, htells.lines, hends.queue, ?_,
    map_task_tour s.limit l.credit ts, hcourse, ?_⟩
  · have hdrain : registered.wait (EventLoop.lookDrain k none) {} = (some (some report), m) := by
      unfold EventLoop.wait at hw
      rw [hw] at hplain
      exact Prod.ext hplain.1.symm hplain.2.symm
    unfold EventLoop.drain
    rw [hdrain]
    rfl
  · rw [← hregistered.journal]
    exact hends.journal
  · rw [List.range_eq_range']
    exact map_task_outcomesFrom 0 visits
  · intro hlimit v hv room
    obtain ⟨room', hroom⟩ := hcourse v hv
    rw [hroom]
    exact v.task.course_same hlimit room room'

def soloScheduler (limit : Duration) : Scheduler where
  logger := { requestId := ⟨"solo"⟩ }
  limit := limit

def soloLoop (limit : Duration) : EventLoop where
  schedulers := [soloScheduler limit]

/-- A loop with a new scheduler, and another one whose drain is about to begin. -/
def busyLoop (limit : Duration) : EventLoop :=
  let l : EventLoop := { schedulers := [soloScheduler limit, soloScheduler limit] }
  ((l.register 1 (.make "other" none [] [.sleep 3, .effect (.note "other"), .sleep 9])).startDrain
    1 .tell "other").2

/-- A forest with a task that registers another one before it sleeps, one that panics and one
that overstays. The one that is registered comes last and returns an error. -/
def mixedForest : List Task :=
  [.make "a" none [.register (.make "d" none [.note "d"] [.fail ["refused"]])] [.sleep 5],
    .make "b" none [.note "b"] [.effect (.panic (.text "broken"))],
    .make "c" (some "slow") [.note "c"] [.sleep 6, .effect (.note "never")]]

theorem drain_agrees_mixedForest :
    ∃ report m own, (mixedForest.foldl (fun l t => l.register 0 t)
        (busyLoop (.ofMillis 5))).drain 0 none = (some report, m) ∧
      report.order = List.range 4 ∧
      report.outcomes.map (·.failure) = [none, some (.panicked "broken"),
        some (.timedOut (.ofMillis 5)), some (.failed ["refused"])] ∧
      Journal.notes own = ["b", "c", "d"] ∧ (Journal.lines own).length = 3 ∧
      m.journal.notes = ["other", "b", "c", "drained succeeded=0 failed=1", "d"] := by
  have hl : (busyLoop (.ofMillis 5)).Orderly := by
    refine EventLoop.Orderly.startDrain ?_ 1 .tell "other"
    exact EventLoop.orderly_new.of_eq rfl rfl
  have hs : (busyLoop (.ofMillis 5)).schedulers[0]? = some (soloScheduler (.ofMillis 5)) := rfl
  obtain ⟨m, own, hdrain, hwait, -, -, hlines, -⟩ := drain_agrees hl rfl hs rfl mixedForest
  have hnotes : ((mixedForest.foldl (fun l t => l.register 0 t) (busyLoop (.ofMillis 5))).wait
      (EventLoop.telling (EventLoop.lookDrain 0 none)) ({}, [])).1.map
        (fun p => Journal.notes p.2) = some ["b", "c", "d"] := by
    decide +kernel
  have hjournal : ((mixedForest.foldl (fun l t => l.register 0 t)
      (busyLoop (.ofMillis 5))).drain 0 none).2.journal.notes
        = ["other", "b", "c", "drained succeeded=0 failed=1", "d"] := by
    decide +kernel
  rw [hwait] at hnotes
  rw [hdrain] at hjournal
  refine ⟨_, m, own, hdrain, by decide +kernel, by decide +kernel, Option.some.inj hnotes, ?_,
    hjournal⟩
  rw [hlines]
  decide +kernel

/-- How a task of a forest fails, if a new scheduler drains the forest. -/
def failureAt (limit : Duration) (ts : List Task) (i : Nat) : Option (Option Failure) :=
  ((ts.foldl (fun l t => l.register 0 t) (soloLoop limit)).drain 0 none).1.bind
    fun r => (r.outcomes[i]?).map (·.failure)

/-- A task that has no time, but wants to sleep so often, however shortly. -/
def restlessTask : Task :=
  .make "b" none [] (List.replicate 100 (.sleep 0))

/-- How a task ends does not follow from its program and the time limit alone: a task without
time succeeds if it is taken up in a turn with room for its sleeps, and is out of time if the
one before has taken the room. -/
theorem failureAt_of_room : ¬ ∃ result : Task → Duration → Option Failure,
    ∀ limit ts i t, ts[i]? = some t → failureAt limit ts i = some (result t limit) := by
  rintro ⟨result, h⟩
  have hfirst := h (.ofMillis 0) [restlessTask, restlessTask] 0 restlessTask rfl
  have hsecond := h (.ofMillis 0) [restlessTask, restlessTask] 1 restlessTask rfl
  have hone : failureAt (.ofMillis 0) [restlessTask, restlessTask] 0 = some none := by
    decide +kernel
  have htwo : failureAt (.ofMillis 0) [restlessTask, restlessTask] 1
      = some (some (.timedOut (.ofMillis 0))) := by
    decide +kernel
  rw [hone] at hfirst
  rw [htwo, ← hfirst] at hsecond
  cases hsecond

end EdgeRender.Deferred
