import EdgeRender.Deferred.Drain
import EdgeRender.Text.Quoted

/-! # The event loop

Drains and timed changes of the pending count run as jobs on one thread. A job that has
been started joins a line and does nothing until somebody waits. The wait is looked at
first; as long as it is not over, there is a round, in which the jobs in the line have a
turn one after another, until they sleep, step aside or end. Those that stepped aside
join the line again, the last one first, and the wait is looked at again. Only when the
line is empty does the clock move, to the next moment for which something is due. Time
is counted in milliseconds.

Whoever waits has an allowance too. Waits that come to their end without a pause use it
up, and then the next one steps aside for a round before it ends.
-/
namespace EdgeRender.Deferred

open EdgeRender.Log EdgeRender.Text

structure Scheduler where
  queue : Queue := {}
  logger : Logger
  /-- The time limit of each task. -/
  limit : Duration := .ofMillis 30000

/-- What happens when a drain has run to its end. -/
inductive Hook where
  | nothing
  /-- Note how many tasks succeeded and how many failed. -/
  | tell
  /-- Panic, so that the report is lost. -/
  | panic (message : String)
  /-- Report the phase to the observer of the request. -/
  | observe
  deriving DecidableEq, Repr

inductive Ending where
  | done
  | reported (report : Report)
  /-- The report was lost by a panic. -/
  | lost (error : String)
  deriving Repr

structure DrainJob where
  request : Nat
  hook : Hook := .nothing
  /-- The name under which a panic of the job is reported. -/
  name : String := ""
  drain : Drain := {}
  due : Nat
  deriving Repr

inductive Job where
  | acquire (due : Nat)
  | release (due n : Nat)
  | drain (d : DrainJob)
  | over (ending : Ending)
  deriving Repr

/-- When the job can go on; nothing is due of a job that is over. -/
def Job.due? : Job → Option Nat
  | .acquire due | .release due _ => some due
  | .drain d => some d.due
  | .over _ => none

/-- A bound on what a job has left to do by itself. -/
def Job.weight : Job → Nat
  | .acquire _ | .release .. => 1
  | .drain d => d.drain.weight + 1
  | .over _ => 0

structure EventLoop where
  now : Nat := 0
  pending : Pending := {}
  schedulers : List Scheduler := []
  jobs : List Job := []
  /-- The jobs that can go on, in the order of their turns. -/
  line : List Nat := []
  /-- How many waits may still come to their end without a pause. -/
  credit : Nat := allowance
  journal : Journal := []
  /-- What the log gives as elapsed time, in microseconds. -/
  elapsedMicros : Nat := 0

namespace EventLoop

def record (l : EventLoop) (events : List Event) : EventLoop :=
  { l with journal := l.journal ++ events }

/-! ## Requests -/

/-- The queue of a request; a request that does not exist has an empty, closed one. -/
def queue (l : EventLoop) (request : Nat) : Queue :=
  match l.schedulers[request]? with
  | some s => s.queue
  | none => { closed := true }

def bench (l : EventLoop) (request : Nat) : Bench :=
  ⟨l.queue request, l.pending, l.journal⟩

def putBench (l : EventLoop) (request : Nat) (b : Bench) : EventLoop :=
  { l with
    schedulers := l.schedulers.modify request ({ · with queue := b.queue })
    pending := b.pending
    journal := b.journal }

def addScheduler (l : EventLoop) (s : Scheduler) : Nat × EventLoop :=
  (l.schedulers.length, { l with schedulers := l.schedulers ++ [s] })

def register (l : EventLoop) (request : Nat) (task : Task) : EventLoop :=
  l.putBench request ((l.bench request).register task)

def discard (l : EventLoop) (request : Nat) : Nat × EventLoop :=
  let (count, b) := (l.bench request).discard
  (count, l.putBench request b)

def queued (l : EventLoop) (request : Nat) : Nat :=
  (l.queue request).tasks.length

/-! ## Pending work -/

def acquire (l : EventLoop) : EventLoop :=
  { l with pending := l.pending.acquire }

def release (l : EventLoop) (n : Nat) : EventLoop :=
  { l with pending := l.pending.release n }

/-! ## Jobs -/

def start (l : EventLoop) (job : Job) : Nat × EventLoop :=
  (l.jobs.length, { l with jobs := l.jobs ++ [job], line := l.line ++ [l.jobs.length] })

def putJob (l : EventLoop) (k : Nat) (job : Job) : EventLoop :=
  { l with jobs := l.jobs.set k job }

def startDrain (l : EventLoop) (request : Nat) (hook : Hook) (name : String) :
    Nat × EventLoop :=
  l.start (.drain { request, hook, name, due := l.now })

/-- The terms on which the tasks of a scheduler are drained. -/
def termsOf (l : EventLoop) (request : Nat) (s : Scheduler) (giveUpAt : Option Nat) : Terms :=
  { request, logger := s.logger, limit := s.limit, giveUpAt, elapsedMicros := l.elapsedMicros }

/-- Give the drain of a request a turn with so much room. There is none if the request
does not exist. -/
def turn? (l : EventLoop) (request room : Nat) (giveUpAt : Option Nat) (d : Drain) :
    Option (Turn × EventLoop) :=
  l.schedulers[request]?.map fun s =>
    let (b, turn) := burst (l.termsOf request s giveUpAt) l.now room (l.bench request) d
    (turn, l.putBench request b)

def conclude (l : EventLoop) (d : DrainJob) (r : Report) : Ending × EventLoop :=
  match d.hook with
  | .nothing => (.reported r, l)
  | .tell =>
    (.reported r, l.record [.note s!"drained succeeded={r.succeeded} failed={r.failed}"])
  | .panic message =>
    (.lost ("task " ++ d.name ++ " panicked with message " ++ Quoted.quote message), l)
  | .observe => (.reported r, l.record [.phase d.request .drained])

/-- A bound on what is left to do: the tasks, and the jobs that are not over. -/
def work (l : EventLoop) : Nat :=
  total (·.queue.weight) l.schedulers + total Job.weight l.jobs

/-- Keep what becomes of a job when its drain has gone on. Does it only step aside? -/
def settle (l : EventLoop) (k : Nat) (d : DrainJob) : Turn → Bool × EventLoop
  | .finished drain =>
    let (ending, l) := l.conclude d drain.report
    (false, l.putJob k (.over ending))
  | .givenUp _ => (false, l.putJob k (.over .done))
  | .waiting time drain => (false, l.putJob k (.drain { d with drain, due := time }))
  | .go drain | .paused drain => (true, l.putJob k (.drain { d with drain, due := l.now }))

/-- Let a drain go on until it steps aside, has to wait or is over. Does it only step
aside? -/
def runDrain (l : EventLoop) (k : Nat) (d : DrainJob) : Bool × EventLoop :=
  match l.turn? d.request allowance none d.drain with
  | none => (false, l.putJob k (.over .done))
  | some (turn, l) => l.settle k d turn

/-- Let a job go on if it can. Does it only step aside? -/
def runJob (l : EventLoop) (k : Nat) : Bool × EventLoop :=
  match l.jobs[k]? with
  | some (.acquire due) =>
    if due ≤ l.now then (false, l.acquire.putJob k (.over .done)) else (false, l)
  | some (.release due n) =>
    if due ≤ l.now then (false, (l.release n).putJob k (.over .done)) else (false, l)
  | some (.drain d) => if d.due ≤ l.now then l.runDrain k d else (false, l)
  | some (.over _) | none => (false, l)

/-- Let jobs have a turn one after another. Those that step aside are collected, the last
one first. -/
def runTurns : List Nat → List Nat → EventLoop → List Nat × EventLoop
  | aside, [], l => (aside, l)
  | aside, k :: line, l =>
    match l.runJob k with
    | (true, l) => runTurns (k :: aside) line l
    | (false, l) => runTurns aside line l

/-- The greatest number of turns in a round. -/
def roundSize : Nat := 61

def runRound (l : EventLoop) : EventLoop :=
  let (aside, l) := runTurns [] (l.line.take roundSize) l
  { l with line := l.line.drop roundSize ++ aside }

def earlier : Option Nat → Option Nat → Option Nat
  | some a, some b => some (min a b)
  | some a, none => some a
  | none, b => b

/-- The next moment for which something is due. -/
def nextDue? (l : EventLoop) : Option Nat :=
  l.jobs.foldl (fun t job => earlier t job.due?) none

/-! ## Waiting -/

/-- Move the clock. Every job that is due joins the line. -/
def moveClock (l : EventLoop) (time : Nat) : EventLoop :=
  let now := max time l.now
  let isDue := fun k => ((l.jobs[k]?).bind Job.due?).any (· ≤ now)
  { l with now, line := (List.range l.jobs.length).filter isDue }

/-- How a wait stands when it has been looked at. -/
inductive Look (α σ : Type) where
  | over (answer : α)
  /-- It has stepped aside and goes on after a round. -/
  | aside (s : σ)
  /-- It goes on when something happens, and at the given time. -/
  | waiting (time : Option Nat) (s : σ)

/-- Restore the allowance of whoever waits, after a pause. -/
def refill (l : EventLoop) : EventLoop :=
  { l with credit := allowance }

/-- End a wait for one unit of the allowance. -/
def close (l : EventLoop) (answer : α) : Look α σ × EventLoop :=
  (.over answer, { l with credit := l.credit - 1 })

/-- Wait until `look` has an answer. As long as it has none, there is a round, or, if
nobody is in the line, the clock moves to the next moment for which a job or the wait
itself is due. Without such a moment there is no answer. -/
def waitFrom (look : EventLoop → σ → Look α σ × EventLoop) :
    Nat → EventLoop → σ → Option α × EventLoop
  | 0, l, _ => (none, l)
  | bound + 1, l, s =>
    match look l s with
    | (.over a, l) => (some a, l)
    | (.aside s, l) => waitFrom look bound l.runRound.refill s
    | (.waiting time s, l) =>
      if l.line.isEmpty then
        match earlier l.nextDue? time with
        | none => (none, l)
        | some time => waitFrom look bound (l.moveClock time).refill s
      else waitFrom look bound l.runRound.refill s

/-- Wait until `look` has an answer. Every turn but the first one of a job lightens what
is left to do, and a turn follows every move of the clock but the last, which bounds the
rounds and the moves. -/
def wait (l : EventLoop) (look : EventLoop → σ → Look α σ × EventLoop) (s : σ) :
    Option α × EventLoop :=
  waitFrom look (2 * (l.work + l.jobs.length) + 5) l s

def lookClock (time : Nat) (l : EventLoop) (_ : Unit) : Look Unit Unit × EventLoop :=
  if l.credit = 0 then (.aside (), l)
  else if time ≤ l.now then l.close ()
  else (.waiting (some time) (), l)

def sleep (l : EventLoop) (millis : Nat) : EventLoop :=
  (l.wait (lookClock (l.now + millis)) ()).2

/-- Look whether work is still pending. That a waiter is served costs nothing. -/
def lookIdle (l : EventLoop) (w : Waiter) : Look Bool Waiter × EventLoop :=
  if w.isServed l.pending then (.over true, l)
  else if l.credit = 0 then (.aside (w.again l.pending), l)
  else if w.deadline ≤ l.now then l.close l.pending.isIdle
  else (.waiting (some w.deadline) (w.again l.pending), l)

/-- Wait until no work is pending, at most so long. A wait in vain gives an alert. -/
def waitIdle (l : EventLoop) (millis : Nat) : Bool × EventLoop :=
  if l.pending.isIdle then (true, l)
  else
    let (answer, l) := l.wait lookIdle ⟨l.now + millis, l.pending.wakeups⟩
    let idle := answer.getD false
    (idle, if idle then l else l.record [.alert (.waitTimedOut l.pending.count)])

/-- Give a drain that is waited for a turn, with what is left of the allowance. -/
def lookDrain (request : Nat) (giveUpAt : Option Nat) (l : EventLoop) (d : Drain) :
    Look (Option Report) Drain × EventLoop :=
  match l.turn? request l.credit giveUpAt d with
  | none => (.over none, l)
  | some (.finished d, l) => (.over (some d.report), { l with credit := d.room })
  | some (.givenUp d, l) => (.over none, { l with credit := d.room })
  | some (.waiting time d, l) => (.waiting (some time) d, l)
  | some (.go d, l) | some (.paused d, l) => (.aside d, l)

/-- Drain the queue of a request and wait for it. There is no report if the drain is
given up, at the latest at the given time. -/
def drain (l : EventLoop) (request : Nat) (giveUpAt : Option Nat) :
    Option Report × EventLoop :=
  let (report, l) := l.wait (lookDrain request giveUpAt) {}
  (report.join, l)

def ending? (l : EventLoop) (k : Nat) : Option Ending :=
  match l.jobs[k]? with
  | some (.over ending) => some ending
  | _ => none

def lookEnding (k : Nat) (l : EventLoop) (_ : Unit) : Look Ending Unit × EventLoop :=
  if l.credit = 0 then (.aside (), l)
  else
    match l.ending? k with
    | some ending => l.close ending
    | none => (.waiting none (), l)

def await (l : EventLoop) (k : Nat) : Ending × EventLoop :=
  let (ending, l) := l.wait (lookEnding k) ()
  (ending.getD .done, l)

/-- Wait for the report of a drain. A report that was lost gives an alert. -/
def join (l : EventLoop) (k : Nat) : Option Report × EventLoop :=
  match l.await k with
  | (.reported r, l) => (some r, l)
  | (.lost error, l) => (none, l.record [.alert (.drainLost error)])
  | (.done, l) => (none, l)

/-- May the process end? A long-running host does not ask; an ephemeral one waits until
no work is pending. -/
def holdTermination (l : EventLoop) (host : HostModel) (millis : Nat) : Bool × EventLoop :=
  if host.requiresPendingSignal then l.waitIdle millis else (true, l)

end EventLoop
end EdgeRender.Deferred
