import EdgeRender.Proofs.Deferred.Course
import EdgeRender.Proofs.Deferred.Lightening

/-! # What a drain will come to

A drain that is under way, whose queue nobody else touches, will come to the outcomes of a
tour, and write what the tour tells: that of the task in flight from where it stands, and
that of the tasks in the queue. No step changes what it will come to, whatever else has been
written in between, if a task that sleeps is not looked at too late.
-/
namespace EdgeRender.Deferred

def numberFrom (first : Nat) : List Task → List Queued
  | [] => []
  | t :: ts => ⟨first, t⟩ :: numberFrom (first + 1) ts

theorem length_numberFrom (first : Nat) (ts : List Task) :
    (numberFrom first ts).length = ts.length := by
  induction ts generalizing first with
  | nil => rfl
  | cons t ts ih => exact congrArg (· + 1) (ih (first + 1))

theorem numberFrom_concat (first : Nat) (ts : List Task) (task : Task) :
    numberFrom first (ts ++ [task]) = numberFrom first ts ++ [⟨first + ts.length, task⟩] := by
  induction ts generalizing first with
  | nil => rfl
  | cons t ts ih =>
    have hnext : first + (t :: ts).length = first + 1 + ts.length := by
      rw [List.length_cons]
      omega
    simp only [List.cons_append, numberFrom, ih, hnext]

/-- An open queue that holds these tasks, numbered from `first` on. -/
structure Queue.Holds (q : Queue) (first : Nat) (ts : List Task) : Prop where
  tasks : q.tasks = numberFrom first ts
  nextId : q.nextId = first + ts.length
  isOpen : q.closed = false

/-- What effects may write when so many tasks are queued: the notes that are left, in order.
A task that looks around notes how many tasks are queued, and what work is pending in all
requests by then. -/
inductive Notes : Nat → List (Effect Task) → List Event → Prop
  | nil (queued : Nat) : Notes queued [] []
  | note {queued : Nat} {es : List (Effect Task)} {js : List Event} (text : String)
      (h : Notes queued es js) : Notes queued (.note text :: es) (.note text :: js)
  | observe {queued : Nat} {es : List (Effect Task)} {js : List Event} (pending : Nat)
      (h : Notes queued es js) :
      Notes queued (.observe :: es) (.note s!"queued={queued} pending={pending}" :: js)
  | register {queued : Nat} {es : List (Effect Task)} {js : List Event} (task : Task)
      (h : Notes (queued + 1) es js) : Notes queued (.register task :: es) js

/-- What is written of the end of a task: nothing, unless it has failed. -/
def endOf (terms : Terms) (id : Nat) (source : String) (failure : Option Failure) : List Event :=
  (failure.map (failureEvents terms id source)).getD []

def outcomesFrom (id : Nat) : List Visit → List Outcome
  | [] => []
  | v :: vs => ⟨id, v.task.source, v.task.label, v.course.failure⟩ :: outcomesFrom (id + 1) vs

/-- What may be written of visits that are numbered from `id` on: that the task has begun,
the notes that it leaves, and its failure. -/
inductive Tells (terms : Terms) : Nat → List Visit → List Event → Prop
  | nil (id : Nat) : Tells terms id [] []
  | cons {id : Nat} {v : Visit} {vs : List Visit} {notes rest : List Event}
      (hn : Notes v.behind v.course.effects notes) (h : Tells terms (id + 1) vs rest) :
      Tells terms id (v :: vs) (.started terms.request id ::
        (notes ++ (endOf terms id v.task.source v.course.failure ++ rest)))

/-- The outcomes that are to come while these tasks are queued and the course is left of the
task in flight. -/
def Course.outcomes (limit : Duration) (ticket : Ticket) (ts : List Task) (c : Course) :
    List Outcome :=
  ⟨ticket.id, ticket.source, ticket.label, c.failure⟩ ::
    outcomesFrom (ticket.id + 1) (tour limit c.room (ts ++ c.registered))

/-- What may be written then: the notes that the task still leaves, and the rest of the tour. -/
structure Course.Writes (terms : Terms) (ticket : Ticket) (ts : List Task) (c : Course)
    (notes rest : List Event) : Prop where
  notes : Notes ts.length c.effects notes
  rest : Tells terms (ticket.id + 1) (tour terms.limit c.room (ts ++ c.registered)) rest

/-- What is left of a task that sleeps: it wakes up in a new turn, if it does so in time. -/
def sleepCourse (limit : Duration) (f : Flight) (wake : Nat) : Course :=
  if wake ≤ f.deadline then
    bodyCourse limit ⟨f.deadline - wake, allowance - 1, true⟩ f.rest
  else .late limit (allowance - 1)

/-- The task in flight, and the course that is left of it. -/
def Drain.course? (terms : Terms) (now : Nat) (d : Drain) : Option (Ticket × Course) :=
  match d.activity with
  | .idle => none
  | .settingUp t rest => some (t.ticket, setupCourse terms.limit d.room t.task.body rest)
  | .flying f =>
    some (⟨f.id, f.source, f.label⟩,
      bodyCourse terms.limit ⟨f.deadline - now, d.room, d.watched⟩ f.rest)
  | .asleep f wake => some (⟨f.id, f.source, f.label⟩, sleepCourse terms.limit f wake)

/-- A task that sleeps is not looked at too late, and it is looked at in a new turn. -/
def Drain.IsPrompt (now : Nat) (d : Drain) : Prop :=
  ∀ f wake, d.activity = .asleep f wake →
    now ≤ min wake f.deadline ∧ d.room = allowance ∧ d.watched = true

section

variable (terms : Terms) (outcomes : List Outcome) (goal : List Event → Prop)

/-- With this course left of the task in flight, these outcomes are to come, and what is
written until the end satisfies the goal. -/
structure Carries (b : Bench) (done : List Outcome) (ticket : Ticket) (ts : List Task)
    (course : Course) : Prop where
  queue : b.queue.Holds (ticket.id + 1) ts
  outcomes : done ++ course.outcomes terms.limit ticket ts = outcomes
  goal : ∀ notes rest, course.Writes terms ticket ts notes rest →
    goal (notes ++ (endOf terms ticket.id ticket.source course.failure ++ rest))

/-- These outcomes are to come of a drain, and what it writes from now on satisfies the
goal. -/
inductive Foresees (now : Nat) (b : Bench) (d : Drain) : Prop
  | idle {first : Nat} {ts : List Task} (hi : d.activity = .idle)
      (hq : b.queue.Holds first ts)
      (ho : d.outcomes ++ outcomesFrom first (tour terms.limit d.room ts) = outcomes)
      (hg : ∀ events, Tells terms first (tour terms.limit d.room ts) events → goal events)
  | carrying {ticket : Ticket} {ts : List Task} {course : Course}
      (hc : d.course? terms now = some (ticket, course))
      (h : Carries terms outcomes goal b d.outcomes ticket ts course) (hp : d.IsPrompt now)

/-- Whatever follows a step, the same is to come. A drain that waits may be looked at before
its time. -/
def Foreseen (now : Nat) (b : Bench) : Turn → Prop
  | .go d => Foresees terms outcomes goal now b d
  | .paused d => Foresees terms outcomes goal now b (d.beginTurn allowance)
  | .waiting time d =>
    now < time ∧ ∀ t, t ≤ time → Foresees terms outcomes goal t b (d.beginTurn allowance)
  | .finished d => d.outcomes = outcomes ∧ goal [] ∧ b.queue = ⟨[], b.queue.nextId, true⟩
  | .givenUp _ => False

/-- Something is written, and what follows satisfies the rest of the goal. -/
def Proceeds (now : Nat) (b c : Bench) (turn : Turn) : Prop :=
  ∃ events, c.journal = b.journal ++ events ∧
    Foreseen terms outcomes (fun rest => goal (events ++ rest)) now c turn

end

variable {terms : Terms} {now first room : Nat} {outcomes done : List Outcome}
  {goal : List Event → Prop} {b c : Bench} {d : Drain} {ts : List Task} {ticket : Ticket}
  {course : Course}

/-- Nothing has been written. -/
theorem Foreseen.proceeds {turn : Turn} (h : Foreseen terms outcomes goal now c turn)
    (hj : c.journal = b.journal) : Proceeds terms outcomes goal now b c turn :=
  ⟨[], hj.trans (List.append_nil _).symm, h⟩

namespace Carries

/-- A task that has come to its end leaves the rest of the tour. -/
theorem conclude {failure : Option Failure} {turn : Turn}
    (h : Carries terms outcomes goal b d.outcomes ticket ts { failure, room := d.room })
    (hc : Deferred.conclude terms b d ticket.id ticket.source ticket.label failure
      = (c, turn)) : Proceeds terms outcomes goal now b c turn := by
  obtain ⟨rfl, rfl⟩ := Prod.mk.inj hc
  have hnone : ts ++ Course.registered { failure, room := d.room } = ts := List.append_nil ts
  have houtcomes := h.outcomes
  unfold Course.outcomes at houtcomes
  rw [hnone] at houtcomes
  refine ⟨endOf terms ticket.id ticket.source failure, rfl, .idle rfl h.queue ?_ ?_⟩
  · rw [← houtcomes]
    exact List.append_assoc _ _ _
  · intro rest hrest
    refine h.goal [] rest ⟨.nil _, ?_⟩
    rw [hnone]
    exact hrest

/-- An effect is carried out, and the course goes on. -/
theorem perform_ok {e : Effect Task}
    (h : Carries terms outcomes goal b done ticket ts (.following e room course))
    (hc : b.perform e = .ok c) :
    ∃ events ts', c.journal = b.journal ++ events ∧
      Carries terms outcomes (fun rest => goal (events ++ rest)) c done ticket ts' course := by
  -- A note goes before what is written later; a registered task goes behind the others.
  cases e with
  | panic payload => cases hc
  | note text =>
    obtain rfl := Except.ok.inj hc
    refine ⟨[.note text], ts, rfl, h.queue, h.outcomes, fun notes rest hw => ?_⟩
    exact h.goal (.note text :: notes) rest ⟨.note text hw.notes, hw.rest⟩
  | observe =>
    obtain rfl := Except.ok.inj hc
    have hlen : b.queue.tasks.length = ts.length := by
      rw [h.queue.tasks, length_numberFrom]
    have htext : b.observation = s!"queued={ts.length} pending={b.pending.count}" := by
      unfold Bench.observation
      rw [hlen]
    refine ⟨[.note b.observation], ts, rfl, h.queue, h.outcomes, fun notes rest hw => ?_⟩
    rw [htext]
    exact h.goal (_ :: notes) rest ⟨.observe b.pending.count hw.notes, hw.rest⟩
  | register task =>
    obtain rfl := Except.ok.inj hc
    rw [Bench.register_of_open h.queue.isOpen]
    have hqueue : ts ++ (Course.following (.register task) room course).registered
        = (ts ++ [task]) ++ course.registered := (List.append_assoc ts [task] _).symm
    have hlen : (ts ++ [task]).length = ts.length + 1 := List.length_append
    refine ⟨[], ts ++ [task], (List.append_nil _).symm, ⟨?_, ?_, h.queue.isOpen⟩, ?_, ?_⟩
    · show b.queue.tasks ++ [⟨b.queue.nextId, task⟩] = _
      rw [h.queue.tasks, h.queue.nextId, numberFrom_concat]
    · show b.queue.nextId + 1 = _
      rw [h.queue.nextId, hlen]
      omega
    · rw [← h.outcomes]
      unfold Course.outcomes
      rw [hqueue]
      rfl
    · intro notes rest hw
      have hnotes := hw.notes
      rw [hlen] at hnotes
      refine h.goal notes rest ⟨.register task hnotes, ?_⟩
      rw [hqueue]
      exact hw.rest

/-- A panic ends the course. -/
theorem perform_error {e : Effect Task} {payload : Payload}
    (h : Carries terms outcomes goal b done ticket ts (.following e room course))
    (hc : b.perform e = .error payload) :
    Carries terms outcomes goal b done ticket ts
      { failure := some (.panicked payload.message), room } := by
  cases e with
  | panic payload' =>
    obtain rfl := Except.error.inj hc
    exact h
  | note | observe | register => cases hc

/-- A task that is out of time ends. -/
theorem timeOut {f : Flight} {turn : Turn}
    (h : Carries terms outcomes goal b d.outcomes ⟨f.id, f.source, f.label⟩ ts
      (.late terms.limit (d.room - 1)))
    (hc : Deferred.timeOut terms b d f = (c, turn)) :
    Proceeds terms outcomes goal now b c turn :=
  conclude (d := d.spend) h hc

/-- A task goes on in the same turn. -/
theorem flying {f : Flight}
    (h : Carries terms outcomes goal b d.outcomes ⟨f.id, f.source, f.label⟩ ts
      (bodyCourse terms.limit ⟨f.deadline - now, d.room, d.watched⟩ f.rest)) :
    Foresees terms outcomes goal now b { d with activity := .flying f } :=
  .carrying rfl h fun _ _ ha => nomatch ha

end Carries

/-- A task steps aside, or is out of time. -/
theorem proceeds_of_pause {f : Flight} {turn : Turn}
    (h : Carries terms outcomes goal b d.outcomes ⟨f.id, f.source, f.label⟩ ts
      (.awaited terms.limit (bodyCourse terms.limit · f.rest)
        (Pace.pause ⟨f.deadline - now, d.room, d.watched⟩)))
    (hc : pause terms now b d f = (c, turn)) :
    Proceeds terms outcomes goal now b c turn := by
  unfold pause at hc
  have hleft : (f.deadline - now = 0) = (f.deadline ≤ now) := propext (by omega)
  simp only [Pace.pause, hleft] at h
  split at hc
  · next hlate =>
    rw [if_pos hlate] at h
    exact h.timeOut hc
  · next hlate =>
    rw [if_neg hlate] at h
    obtain ⟨rfl, rfl⟩ := Prod.mk.inj hc
    refine Foreseen.proceeds ?_ rfl
    exact Carries.flying (d := d.beginTurn allowance) h

theorem proceeds_of_takeUp {turn : Turn} (hq : b.queue.Holds first ts)
    (ho : d.outcomes ++ outcomesFrom first (tour terms.limit d.room ts) = outcomes)
    (hg : ∀ events, Tells terms first (tour terms.limit d.room ts) events → goal events)
    (hc : takeUp terms b d = (c, turn)) : Proceeds terms outcomes goal now b c turn := by
  unfold takeUp at hc
  cases ts with
  | nil =>
    rw [Queue.take_of_nil hq.tasks] at hc
    obtain ⟨rfl, rfl⟩ := Prod.mk.inj hc
    refine ⟨[], (List.append_nil _).symm, (List.append_nil _).symm.trans ho, hg [] (.nil first),
      ?_⟩
    show Queue.mk b.queue.tasks b.queue.nextId true = _
    rw [hq.tasks]
    rfl
  | cons t ts =>
    rw [Queue.take_of_cons hq.tasks] at hc
    obtain ⟨rfl, rfl⟩ := Prod.mk.inj hc
    rw [tour_cons] at ho hg
    have hcarries : Carries terms outcomes
        (fun rest => goal (.started terms.request first :: rest))
        ({ b with queue := { b.queue with tasks := numberFrom (first + 1) ts } }.record
          [.started terms.request first]) d.outcomes ⟨first, t.source, t.label⟩ ts
        (t.course terms.limit d.room) := by
      refine ⟨⟨rfl, ?_, hq.isOpen⟩, ho, fun notes rest hw => hg _ (.cons hw.notes hw.rest)⟩
      show b.queue.nextId = first + 1 + ts.length
      rw [hq.nextId, List.length_cons]
      omega
    exact ⟨[.started terms.request first], rfl,
      .carrying rfl hcarries fun _ _ ha => nomatch ha⟩

theorem proceeds_of_setUp {t : Queued} {rest : List (Effect Task)} {turn : Turn}
    (h : Carries terms outcomes goal b d.outcomes t.ticket ts
      (setupCourse terms.limit d.room t.task.body rest))
    (hc : setUp terms now b d t rest = (c, turn)) :
    Proceeds terms outcomes goal now b c turn := by
  cases rest with
  | nil =>
    obtain ⟨rfl, rfl⟩ := Prod.mk.inj hc
    have hleft : now + terms.limit.begunMillis - now = allottedMillis terms.limit := by
      rw [begunMillis_eq]
      omega
    have hcourse : Carries terms outcomes goal b d.outcomes t.ticket ts
        (bodyCourse terms.limit ⟨now + terms.limit.begunMillis - now, d.room, d.room != 0⟩
          t.task.body) := by
      rw [hleft]
      exact h
    refine Foreseen.proceeds ?_ rfl
    exact Carries.flying (d := { d with watched := d.room != 0 }) hcourse
  | cons e rest =>
    simp only [setUp] at hc
    split at hc
    · next hp =>
      obtain ⟨rfl, rfl⟩ := Prod.mk.inj hc
      obtain ⟨events, ts', hj, hcarries⟩ := h.perform_ok hp
      exact ⟨events, hj, .carrying rfl hcarries fun _ _ ha => by cases ha⟩
    · next hp => exact (h.perform_error hp).conclude hc

/-- A sleep in this turn. -/
theorem proceeds_of_doze {f : Flight} {millis : Nat} {rest : List (Step Task)} {turn : Turn}
    (h : Carries terms outcomes goal b d.outcomes ⟨f.id, f.source, f.label⟩ ts
      (.awaited terms.limit (bodyCourse terms.limit · rest)
        (Pace.doze ⟨f.deadline - now, d.room, d.watched⟩ millis)))
    (hc : (if millis = 0 then (b, .go { d.spend with activity := .flying { f with rest } })
      else if f.deadline ≤ now then Deferred.timeOut terms b d f
      else
        let wake := now + millis
        (b, .waiting (min wake f.deadline) { d with activity := .asleep { f with rest } wake }))
      = (c, turn)) :
    Proceeds terms outcomes goal now b c turn := by
  have hlate : (f.deadline - now = 0) = (f.deadline ≤ now) := propext (by omega)
  simp only [Pace.doze, hlate] at h
  split at hc
  · next hz =>
    rw [if_pos hz] at h
    obtain ⟨rfl, rfl⟩ := Prod.mk.inj hc
    refine Foreseen.proceeds ?_ rfl
    exact Carries.flying (d := d.spend) (f := { f with rest }) h
  · next hz =>
    rw [if_neg hz] at h
    split at hc
    · next hd =>
      rw [if_pos hd] at h
      exact h.timeOut hc
    · next hd =>
      rw [if_neg hd] at h
      obtain ⟨rfl, rfl⟩ := Prod.mk.inj hc
      -- The drain compares moments, the course compares spans of time that are left.
      have hwake : (millis ≤ f.deadline - now)
          = (now + millis ≤ f.deadline) := propext (by omega)
      have hleft : f.deadline - now - millis
          = f.deadline - (now + millis) := by omega
      have hsleep : Carries terms outcomes goal b d.outcomes
          ⟨f.id, f.source, f.label⟩ ts
          (sleepCourse terms.limit { f with rest } (now + millis)) := by
        simp only [hwake, hleft] at h
        unfold sleepCourse
        dsimp only
        split
        · next hin =>
          rw [if_pos hin] at h
          exact h
        · next hin =>
          rw [if_neg hin] at h
          exact h
      refine Foreseen.proceeds ⟨by omega, fun t ht => .carrying rfl hsleep ?_⟩ rfl
      intro f' wake ha
      obtain ⟨rfl, rfl⟩ := Activity.asleep.inj ha
      exact ⟨ht, rfl, rfl⟩

theorem proceeds_of_fly {f : Flight} {turn : Turn}
    (h : Carries terms outcomes goal b d.outcomes ⟨f.id, f.source, f.label⟩ ts
      (bodyCourse terms.limit ⟨f.deadline - now, d.room, d.watched⟩ f.rest))
    (hc : fly terms now b d f = (c, turn)) :
    Proceeds terms outcomes goal now b c turn := by
  unfold fly at hc
  split at hc
  · next hf =>
    rw [hf] at h
    exact h.conclude hc
  · next e rest hf =>
    rw [hf] at h
    split at hc
    · next hp =>
      obtain ⟨rfl, rfl⟩ := Prod.mk.inj hc
      obtain ⟨events, ts', hj, hcarries⟩ := h.perform_ok hp
      exact ⟨events, hj, Carries.flying (f := { f with rest }) hcarries⟩
    · next hp => exact (h.perform_error hp).conclude hc
  · next chain rest hf =>
    rw [hf] at h
    exact h.conclude hc
  · next rest hf =>
    rw [hf] at h
    exact proceeds_of_pause (f := { f with rest }) h hc
  · next millis rest hf =>
    rw [hf] at h
    simp only [bodyCourse, Pace.sleep] at h
    split at hc
    · next hroom =>
      -- The sleep is begun again in the next turn.
      rw [if_pos hroom, ← awaited_pause_sleep, ← hf] at h
      exact proceeds_of_pause h hc
    · next hroom =>
      rw [if_neg hroom] at h
      exact proceeds_of_doze h hc

/-- A look at a task that sleeps. One that is looked at before its time sleeps on. -/
theorem proceeds_of_asleep {f : Flight} {wake : Nat} {turn : Turn}
    (h : Carries terms outcomes goal b d.outcomes ⟨f.id, f.source, f.label⟩ ts
      (sleepCourse terms.limit f wake))
    (ha : d.activity = .asleep f wake) (hp : d.IsPrompt now)
    (hc : (if wake ≤ now then (b, .go { d.spend with activity := .flying f })
      else if f.deadline ≤ now then Deferred.timeOut terms b d f
      else (b, .waiting (min wake f.deadline) d)) = (c, turn)) :
    Proceeds terms outcomes goal now b c turn := by
  obtain ⟨hnow, hroom, hwatched⟩ := hp f wake ha
  have hcourse := h
  simp only [sleepCourse] at h
  split at hc
  · next hwake =>
    -- It wakes up in time, and so exactly now.
    have hin : wake ≤ f.deadline := by omega
    have heq : wake = now := by omega
    rw [if_pos hin, heq] at h
    obtain ⟨rfl, rfl⟩ := Prod.mk.inj hc
    have hcarries : Carries terms outcomes goal b d.outcomes ⟨f.id, f.source, f.label⟩ ts
        (bodyCourse terms.limit ⟨f.deadline - now, d.room - 1, d.watched⟩ f.rest) := by
      rw [hroom, hwatched]
      exact h
    refine Foreseen.proceeds ?_ rfl
    exact Carries.flying (d := d.spend) hcarries
  · next hwake =>
    split at hc
    · next hdead =>
      have hout : ¬ wake ≤ f.deadline := by omega
      rw [if_neg hout, ← hroom] at h
      exact h.timeOut hc
    · next hdead =>
      obtain ⟨rfl, rfl⟩ := Prod.mk.inj hc
      refine Foreseen.proceeds ⟨by omega, fun t ht => .carrying ?_ hcourse ?_⟩ rfl
      · simp only [Drain.course?, Drain.beginTurn, ha]
      · intro f' wake' ha'
        obtain ⟨rfl, rfl⟩ := Activity.asleep.inj (ha.symm.trans ha')
        exact ⟨ht, rfl, rfl⟩

/-- No step changes what is to come. -/
theorem proceeds_of_step {turn : Turn} (h : Foresees terms outcomes goal now b d)
    (hc : step terms now b d = (c, turn)) : Proceeds terms outcomes goal now b c turn := by
  unfold step at hc
  cases h with
  | idle hi hq ho hg =>
    rw [hi] at hc
    exact proceeds_of_takeUp hq ho hg hc
  | @carrying ticket ts course hcourse h hprompt =>
    cases ha : d.activity with
    | idle =>
      simp only [Drain.course?, ha] at hcourse
      cases hcourse
    | settingUp t rest =>
      simp only [Drain.course?, ha, Option.some.injEq, Prod.mk.injEq] at hcourse
      obtain ⟨rfl, rfl⟩ := hcourse
      rw [ha] at hc
      exact proceeds_of_setUp h hc
    | flying f =>
      simp only [Drain.course?, ha, Option.some.injEq, Prod.mk.injEq] at hcourse
      obtain ⟨rfl, rfl⟩ := hcourse
      rw [ha] at hc
      exact proceeds_of_fly h hc
    | asleep f wake =>
      simp only [Drain.course?, ha, Option.some.injEq, Prod.mk.injEq] at hcourse
      obtain ⟨rfl, rfl⟩ := hcourse
      rw [ha] at hc
      exact proceeds_of_asleep h ha hprompt hc

/-- No turn changes what is to come, nor does it end in the middle. -/
theorem proceeds_of_runBurst {bound : Nat} {w : Bool} {turn : Turn} (hu : terms.giveUpAt = none)
    (h : Foresees terms outcomes goal now b d)
    (hc : runBurst terms now w bound b d = (c, turn)) :
    Proceeds terms outcomes goal now b c turn := by
  have hbound : ∀ time, terms.bounded time = time := fun time => by
    simp [Terms.bounded, hu]
  induction bound generalizing b d goal with
  | zero =>
    obtain ⟨rfl, rfl⟩ := Prod.mk.inj hc
    have hgo : Foreseen terms outcomes goal now b (.go d) := h
    exact hgo.proceeds rfl
  | succ bound ih =>
    unfold runBurst at hc
    split at hc
    · next hs =>
      obtain ⟨events, hj, hfirst⟩ := proceeds_of_step h hs
      obtain ⟨more, hmore, hrest⟩ := ih hfirst hc
      refine ⟨events ++ more, ?_, ?_⟩
      · rw [hmore, hj, List.append_assoc]
      · simp only [List.append_assoc]
        exact hrest
    · next hs =>
      rw [EventLoop.suspend_of_unlimited hu] at hc
      obtain ⟨rfl, rfl⟩ := Prod.mk.inj hc
      exact proceeds_of_step h hs
    · next hs =>
      rw [EventLoop.suspend_of_unlimited hu, hbound] at hc
      obtain ⟨rfl, rfl⟩ := Prod.mk.inj hc
      exact proceeds_of_step h hs
    · exact proceeds_of_step h hc

end EdgeRender.Deferred
