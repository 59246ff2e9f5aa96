import EdgeRender.Deferred.Bench
import EdgeRender.Deferred.Report

/-! # Draining a queue

The tasks of a queue run one at a time, in order, until the queue is found empty. A
task may fail in any way without stopping the others. Its time limit is looked at only
when it would wait: work that reaches exactly the limit still counts.

A drain works in turns, and a turn has room for so many sleeps and time limits that come
to their end. When there is no room left, a task that wants to sleep, however short,
steps aside and sleeps in the next turn.
-/
namespace EdgeRender.Deferred

open EdgeRender.Log

structure Terms where
  request : Nat
  logger : Logger
  /-- The time limit of each task. -/
  limit : Duration
  /-- When the drain is given up, if ever. -/
  giveUpAt : Option Nat := none
  /-- What the log gives as elapsed time, in microseconds. -/
  elapsedMicros : Nat := 0
  deriving Repr

structure Flight where
  id : Nat
  source : String
  label : Option String
  rest : List (Step Task)
  deadline : Nat
  deriving Repr

inductive Activity where
  /-- Take up the next task. -/
  | idle
  /-- Go on with the setup of a task. -/
  | settingUp (t : Queued) (rest : List (Effect Task))
  /-- Go on with a task. -/
  | flying (f : Flight)
  /-- Go on with a task that sleeps. -/
  | asleep (f : Flight) (wake : Nat)
  deriving Repr

/-- How many sleeps and time limits may come to their end in one turn. -/
def allowance : Nat := 128

structure Drain where
  activity : Activity := .idle
  outcomes : List Outcome := []
  /-- What is left of the allowance of this turn. -/
  room : Nat := allowance
  /-- Was there room when the turn came to the task in flight? If not, its time limit is
  not looked at in this turn. -/
  watched : Bool := true
  deriving Repr

namespace Drain

def beginTurn (d : Drain) (room : Nat) : Drain :=
  { d with room, watched := room != 0 }

/-- Take one unit of the room; what happens without room costs nothing. -/
def spend (d : Drain) : Drain :=
  { d with room := d.room - 1 }

def report (d : Drain) : Report :=
  ⟨d.outcomes⟩

def inFlight (d : Drain) : Nat :=
  match d.activity with
  | .idle => 0
  | .settingUp .. | .flying _ | .asleep .. => 1

def weight (d : Drain) : Nat :=
  match d.activity with
  | .idle => 0
  | .settingUp t rest => Task.setupWeight rest + Task.bodyWeight t.task.body + 2
  | .flying f => Task.bodyWeight f.rest + 1
  | .asleep f _ => Task.bodyWeight f.rest + 2

@[simp] theorem weight_spend (d : Drain) : d.spend.weight = d.weight := rfl

@[simp] theorem weight_beginTurn (d : Drain) (room : Nat) :
    (d.beginTurn room).weight = d.weight := rfl

end Drain

inductive Turn where
  /-- More can be done at once. -/
  | go (d : Drain)
  /-- The task steps aside for a moment. -/
  | paused (d : Drain)
  /-- Nothing can be done before the given time. -/
  | waiting (time : Nat) (d : Drain)
  | finished (d : Drain)
  | givenUp (d : Drain)
  deriving Repr

def failureEvents (terms : Terms) (id : Nat) (source : String) (failure : Failure) : List Event :=
  let line := terms.logger.line? terms.elapsedMicros .error "Error in deferred task"
    [.number "task_id" (.ofNat id), .text "source" source, .text "error" failure.message]
  line.toList.map .line ++ [.alert (.taskFailed id source failure.message)]

def conclude (terms : Terms) (b : Bench) (d : Drain) (id : Nat) (source : String)
    (label : Option String) (failure : Option Failure) : Bench × Turn :=
  let b := b.record ((failure.map (failureEvents terms id source)).getD [])
  ({ b with pending := b.pending.release 1 },
    .go { d with activity := .idle, outcomes := d.outcomes ++ [⟨id, source, label, failure⟩] })

def takeUp (terms : Terms) (b : Bench) (d : Drain) : Bench × Turn :=
  match b.queue.take with
  | (none, queue) => ({ b with queue }, .finished d)
  | (some t, queue) =>
    ({ b with queue }.record [.started terms.request t.id],
      .go { d with activity := .settingUp t t.task.setup })

/-- Go on with the setup of a task. Once it is done, the time of the task begins. -/
def setUp (terms : Terms) (now : Nat) (b : Bench) (d : Drain) (t : Queued) :
    List (Effect Task) → Bench × Turn
  | [] =>
    let flight : Flight :=
      { id := t.id, source := t.task.source, label := t.task.label, rest := t.task.body,
        deadline := now + terms.limit.begunMillis }
    (b, .go { d with activity := .flying flight, watched := d.room != 0 })
  | e :: rest =>
    match b.perform e with
    | .ok b => (b, .go { d with activity := .settingUp t rest })
    | .error payload =>
      conclude terms b d t.id t.task.source t.task.label (some (.panicked payload.message))

def timeOut (terms : Terms) (b : Bench) (d : Drain) (f : Flight) : Bench × Turn :=
  conclude terms b d.spend f.id f.source f.label (some (.timedOut terms.limit))

/-- Let a task step aside, unless its time limit is looked at and has come. -/
def pause (terms : Terms) (now : Nat) (b : Bench) (d : Drain) (f : Flight) : Bench × Turn :=
  if d.watched && f.deadline ≤ now then timeOut terms b d f
  else (b, .paused { d with activity := .flying f })

/-- Go on with a task. -/
def fly (terms : Terms) (now : Nat) (b : Bench) (d : Drain) (f : Flight) : Bench × Turn :=
  match f.rest with
  | [] => conclude terms b d f.id f.source f.label none
  | .effect e :: rest =>
    match b.perform e with
    | .ok b => (b, .go { d with activity := .flying { f with rest } })
    | .error payload =>
      conclude terms b d f.id f.source f.label (some (.panicked payload.message))
  | .fail chain :: _ => conclude terms b d f.id f.source f.label (some (.failed chain))
  | .yield :: rest => pause terms now b d { f with rest }
  | .sleep millis :: rest =>
    if d.room = 0 then pause terms now b d f
    else if millis = 0 then (b, .go { d.spend with activity := .flying { f with rest } })
    else if f.deadline ≤ now then timeOut terms b d f
    else
      let wake := now + millis
      (b, .waiting (min wake f.deadline) { d with activity := .asleep { f with rest } wake })

def step (terms : Terms) (now : Nat) (b : Bench) (d : Drain) : Bench × Turn :=
  match d.activity with
  | .idle => takeUp terms b d
  | .settingUp t rest => setUp terms now b d t rest
  | .flying f => fly terms now b d f
  | .asleep f wake =>
    if wake ≤ now then (b, .go { d.spend with activity := .flying f })
    else if f.deadline ≤ now then timeOut terms b d f
    else (b, .waiting (min wake f.deadline) d)

/-! ### Steps lighten

A step after which more can be done at once leaves less to do. That bounds the steps
that a drain can make at one moment. -/

theorem weight_of_conclude {terms : Terms} {b c : Bench} {d e : Drain} {id : Nat}
    {source : String} {label : Option String} {failure : Option Failure}
    (h : conclude terms b d id source label failure = (c, .go e)) :
    c.queue = b.queue ∧ e.weight = 0 := by
  obtain ⟨rfl, he⟩ := Prod.mk.inj h
  obtain rfl := Turn.go.inj he
  exact ⟨rfl, rfl⟩

theorem weight_of_pause {terms : Terms} {now : Nat} {b c : Bench} {d e : Drain} {f : Flight}
    (h : pause terms now b d f = (c, .go e)) : c.queue = b.queue ∧ e.weight = 0 := by
  unfold pause at h
  split at h
  · exact weight_of_conclude h
  · simp at h

theorem weight_lt_of_takeUp {terms : Terms} {b c : Bench} {d e : Drain}
    (h : takeUp terms b d = (c, .go e)) :
    c.queue.weight + e.weight < b.queue.weight := by
  unfold takeUp at h
  split at h
  · simp at h
  · next t queue ht =>
    have hq := Queue.weight_of_take ht
    have hw : t.task.weight = 3 + Task.setupWeight t.task.setup
        + Task.bodyWeight t.task.body := by
      cases t.task with
      | make => rfl
    obtain ⟨rfl, he⟩ := Prod.mk.inj h
    obtain rfl := Turn.go.inj he
    simp only [Drain.weight, Bench.queue_record]
    omega

theorem weight_lt_of_setUp {terms : Terms} {now : Nat} {b c : Bench} {d e : Drain} {t : Queued}
    {rest : List (Effect Task)} (h : setUp terms now b d t rest = (c, .go e)) :
    c.queue.weight + e.weight
      < b.queue.weight + (Task.setupWeight rest + Task.bodyWeight t.task.body + 2) := by
  unfold setUp at h
  split at h
  · obtain ⟨rfl, he⟩ := Prod.mk.inj h
    obtain rfl := Turn.go.inj he
    simp only [Drain.weight, Task.setupWeight]
    omega
  · next effect rest =>
    simp only [Task.setupWeight]
    split at h
    · next hp =>
      obtain ⟨rfl, he⟩ := Prod.mk.inj h
      obtain rfl := Turn.go.inj he
      have := Bench.weight_lt_of_perform hp
      simp only [Drain.weight]
      omega
    · obtain ⟨hc, he⟩ := weight_of_conclude h
      rw [hc, he]
      omega

theorem weight_lt_of_fly {terms : Terms} {now : Nat} {b c : Bench} {d e : Drain} {f : Flight}
    (h : fly terms now b d f = (c, .go e)) :
    c.queue.weight + e.weight < b.queue.weight + (Task.bodyWeight f.rest + 1) := by
  -- What is left weighs less by one at least, for a step weighs more than what it registers.
  unfold fly at h
  split at h
  · obtain ⟨hc, he⟩ := weight_of_conclude h
    rw [hc, he]
    omega
  · next effect rest hf =>
    rw [hf]
    simp only [Task.bodyWeight, Task.stepWeight]
    split at h
    · next hp =>
      obtain ⟨rfl, he⟩ := Prod.mk.inj h
      obtain rfl := Turn.go.inj he
      have := Bench.weight_lt_of_perform hp
      simp only [Drain.weight]
      omega
    · obtain ⟨hc, he⟩ := weight_of_conclude h
      rw [hc, he]
      omega
  · obtain ⟨hc, he⟩ := weight_of_conclude h
    rw [hc, he]
    omega
  · obtain ⟨hc, he⟩ := weight_of_pause h
    rw [hc, he]
    omega
  · next millis rest hf =>
    rw [hf]
    simp only [Task.bodyWeight, Task.stepWeight]
    split at h
    · obtain ⟨hc, he⟩ := weight_of_pause h
      rw [hc, he]
      omega
    · split at h
      · obtain ⟨rfl, he⟩ := Prod.mk.inj h
        obtain rfl := Turn.go.inj he
        simp only [Drain.weight]
        omega
      · split at h
        · obtain ⟨hc, he⟩ := weight_of_conclude h
          rw [hc, he]
          omega
        · simp at h

/-- A step that can be followed at once leaves less to do. -/
theorem weight_lt_of_step {terms : Terms} {now : Nat} {b c : Bench} {d e : Drain}
    (h : step terms now b d = (c, .go e)) :
    c.queue.weight + e.weight < b.queue.weight + d.weight := by
  unfold step at h
  split at h
  · next ha =>
    have := weight_lt_of_takeUp h
    omega
  · next t rest ha =>
    have hd : d.weight = Task.setupWeight rest + Task.bodyWeight t.task.body + 2 := by
      simp only [Drain.weight, ha]
    have := weight_lt_of_setUp h
    omega
  · next f ha =>
    have hd : d.weight = Task.bodyWeight f.rest + 1 := by simp only [Drain.weight, ha]
    have := weight_lt_of_fly h
    omega
  · next f wake ha =>
    have hd : d.weight = Task.bodyWeight f.rest + 2 := by simp only [Drain.weight, ha]
    split at h
    · obtain ⟨rfl, he⟩ := Prod.mk.inj h
      obtain rfl := Turn.go.inj he
      simp only [Drain.weight] at hd ⊢
      omega
    · split at h
      · obtain ⟨hc, he⟩ := weight_of_conclude h
        rw [hc, he, hd]
        omega
      · simp at h

/-- Give up a drain: the task in flight is dropped, and so are those in the queue. -/
def giveUp (b : Bench) (d : Drain) : Bench :=
  ({ b with pending := b.pending.release d.inFlight }.discard).2

def Terms.isOver (terms : Terms) (now : Nat) : Bool :=
  terms.giveUpAt.any (· ≤ now)

/-- Let a drain pause in the given way, unless it is given up, which is considered only
if the turn began with room. -/
def suspend (terms : Terms) (now : Nat) (watched : Bool) (b : Bench) (d : Drain) (turn : Turn) :
    Bench × Turn :=
  if watched && terms.isOver now then (giveUp b d, .givenUp d.spend) else (b, turn)

/-- The time up to which nothing can be done, not later than the drain is given up. -/
def Terms.bounded (terms : Terms) (time : Nat) : Nat :=
  terms.giveUpAt.elim time (min time)

/-- Run a drain at one moment, until it steps aside, has to wait or is over. -/
def runBurst (terms : Terms) (now : Nat) (watched : Bool) :
    Nat → Bench → Drain → Bench × Turn
  | 0, b, d => (b, .go d)
  | bound + 1, b, d =>
    match step terms now b d with
    | (b, .go d) => runBurst terms now watched bound b d
    | (b, .paused d) => suspend terms now watched b d (.paused d)
    | (b, .waiting time d) => suspend terms now watched b d (.waiting (terms.bounded time) d)
    | ended => ended

/-- Give a drain a turn with so much room, and run it as far as it gets. Every step
lightens the queue and the task in flight together, which bounds their number. -/
def burst (terms : Terms) (now room : Nat) (b : Bench) (d : Drain) : Bench × Turn :=
  runBurst terms now (room != 0) (b.queue.weight + d.weight + 1) b (d.beginTurn room)

theorem suspend_ne_go {terms : Terms} {now : Nat} {watched : Bool} {b c : Bench} {d e : Drain}
    {turn : Turn} (h : turn ≠ .go e) : suspend terms now watched b d turn ≠ (c, .go e) := by
  unfold suspend
  split
  · simp
  · simp [h]

theorem runBurst_ne_go {terms : Terms} {now bound : Nat} {watched : Bool} {b c : Bench}
    {d e : Drain} (h : b.queue.weight + d.weight < bound) :
    runBurst terms now watched bound b d ≠ (c, .go e) := by
  induction bound generalizing b d with
  | zero => omega
  | succ bound ih =>
    unfold runBurst
    split
    · next hs =>
      have := weight_lt_of_step hs
      exact ih (by omega)
    · exact suspend_ne_go (by simp)
    · exact suspend_ne_go (by simp)
    · next ended hgo _ _ =>
      intro he
      exact hgo c e he

/-- A burst ends because the drain steps aside, waits or is over, never for want of
steps. -/
theorem burst_ne_go (terms : Terms) (now room : Nat) (b c : Bench) (d e : Drain) :
    burst terms now room b d ≠ (c, .go e) :=
  runBurst_ne_go (Nat.lt_succ_self _)

end EdgeRender.Deferred
