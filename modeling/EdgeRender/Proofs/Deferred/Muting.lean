import EdgeRender.Proofs.Deferred.Interleaving
import EdgeRender.Proofs.Deferred.Simulation
import EdgeRender.Proofs.Log.Muting

/-! # The mode and the event loop

Drains and waits look neither at the journal nor at the time that the log tells. So a loop
with the journal of production, and with another reading of the clock, does the same. What it
writes is the same in every mode.
-/
namespace EdgeRender.Deferred

open Journal

/-! ## Benches -/

namespace Bench

/-- A bench, and what it would be in production. -/
def Matches (b b' : Bench) : Prop :=
  ∃ j, Journal.Matches b.journal j ∧ b' = { b with journal := j }

variable {b b' : Bench}

theorem Matches.record (h : b.Matches b') {events events' : List Event}
    (he : Journal.Matches events events') : (b.record events).Matches (b'.record events') := by
  obtain ⟨j, hj, rfl⟩ := h
  exact ⟨j ++ events', hj.append he, rfl⟩

/-- What is no diagnostic is written alike. -/
theorem Matches.recordPlain (h : b.Matches b') {events : List Event}
    (he : ∀ e ∈ events, e.isDiagnostic = false) : (b.record events).Matches (b'.record events) :=
  h.record (.of_plain he)

theorem Matches.register (h : b.Matches b') (task : Task) :
    (b.register task).Matches (b'.register task) := by
  have hdropped : (b.record [.alert (.registrationDropped task.source)]).Matches
      (b'.record [.alert (.registrationDropped task.source)]) :=
    h.recordPlain (by simp [Event.isDiagnostic])
  obtain ⟨j, hj, rfl⟩ := h
  unfold Bench.register
  cases hq : b.queue.push? task with
  | none => exact hdropped
  | some queue => exact ⟨j, hj, rfl⟩

/-- An effect panics on both benches or on neither. -/
theorem Matches.perform (h : b.Matches b') (e : Effect Task) :
    (∃ c c', b.perform e = .ok c ∧ b'.perform e = .ok c' ∧ c.Matches c') ∨
      ∃ payload, b.perform e = .error payload ∧ b'.perform e = .error payload := by
  cases e with
  | note text => exact .inl ⟨_, _, rfl, rfl, h.recordPlain (by simp [Event.isDiagnostic])⟩
  | observe =>
    have hsame : b'.observation = b.observation := by
      obtain ⟨j, -, rfl⟩ := h
      rfl
    refine .inl ⟨_, _, rfl, rfl, ?_⟩
    rw [hsame]
    exact h.recordPlain (by simp [Event.isDiagnostic])
  | register task => exact .inl ⟨_, _, rfl, rfl, h.register task⟩
  | panic payload => exact .inr ⟨payload, rfl, rfl⟩

theorem Matches.discard (h : b.Matches b') :
    b'.discard.1 = b.discard.1 ∧ b.discard.2.Matches b'.discard.2 := by
  obtain ⟨j, hj, rfl⟩ := h
  exact ⟨rfl, j, hj, rfl⟩

end Bench

/-! ## Drains -/

/-- The terms of a drain at another reading of the clock. -/
def Terms.readAt (terms : Terms) (t : Nat) : Terms := { terms with elapsedMicros := t }

variable {b b' : Bench}

theorem matches_failureEvents (terms : Terms) (t id : Nat) (source : String) (failure : Failure) :
    Journal.Matches (failureEvents terms id source failure)
      (failureEvents (terms.readAt t) id source failure) :=
  (Journal.Matches.line? _ _ _ _ _ rfl).append (.of_plain (by simp [Event.isDiagnostic]))

theorem matches_conclude (h : b.Matches b') (terms : Terms) (t : Nat) (d : Drain) (id : Nat)
    (source : String) (label : Option String) (failure : Option Failure) :
    (conclude terms b d id source label failure).1.Matches
      (conclude (terms.readAt t) b' d id source label failure).1 := by
  have hwritten : (b.record ((failure.map (failureEvents terms id source)).getD [])).Matches
      (b'.record ((failure.map (failureEvents (terms.readAt t) id source)).getD [])) := by
    cases failure with
    | none => exact h.record .nil
    | some failure => exact h.record (matches_failureEvents terms t id source failure)
  obtain ⟨j, hj, hb⟩ := hwritten
  refine ⟨j, hj, ?_⟩
  simp only [conclude, hb]

/-- A drain does the same in production, and what it writes is the same. -/
theorem simulation_matches (terms : Terms) (t : Nat) :
    Simulation terms (terms.readAt t) Bench.Matches where
  limit := rfl
  queue := by
    rintro b b' ⟨j, -, rfl⟩
    rfl
  perform h := h.perform
  closed := by
    rintro b b' ⟨j, hj, rfl⟩ queue
    exact ⟨j, hj, rfl⟩
  taken := by
    rintro b b' ⟨j, hj, rfl⟩ queue id
    exact ⟨_, hj.append (.of_plain (by simp [Event.isDiagnostic])), rfl⟩
  ended h := matches_conclude h terms t

theorem matches_giveUp (h : b.Matches b') (d : Drain) : (giveUp b d).Matches (giveUp b' d) := by
  obtain ⟨j, hj, rfl⟩ := h
  exact ⟨j, hj, rfl⟩

theorem sameTurn_suspend (h : b.Matches b') (terms : Terms) (t now : Nat) (watched : Bool)
    (d : Drain) (turn : Turn) :
    SameTurn Bench.Matches (suspend terms now watched b d turn)
      (suspend (terms.readAt t) now watched b' d turn) := by
  have hover : (terms.readAt t).isOver now = terms.isOver now := rfl
  unfold suspend
  rw [hover]
  split
  · exact ⟨rfl, matches_giveUp h d⟩
  · exact ⟨rfl, h⟩

theorem sameTurn_runBurst (h : b.Matches b') (terms : Terms) (t now : Nat) (watched : Bool)
    (bound : Nat) (d : Drain) :
    SameTurn Bench.Matches (runBurst terms now watched bound b d)
      (runBurst (terms.readAt t) now watched bound b' d) := by
  induction bound generalizing b b' d with
  | zero => exact ⟨rfl, h⟩
  | succ bound ih =>
    obtain ⟨hturn, hbench⟩ := (simulation_matches terms t).step h now d
    obtain ⟨c, turn, hs⟩ : ∃ c turn, step terms now b d = (c, turn) := ⟨_, _, rfl⟩
    obtain ⟨c', turn', hs'⟩ : ∃ c turn, step (terms.readAt t) now b' d = (c, turn) := ⟨_, _, rfl⟩
    rw [hs, hs'] at hturn hbench
    obtain rfl : turn' = turn := hturn
    unfold runBurst
    rw [hs, hs']
    cases turn' with
    | go d => exact ih hbench d
    | paused d => exact sameTurn_suspend hbench terms t now watched d _
    | waiting time d => exact sameTurn_suspend hbench terms t now watched d _
    | finished d | givenUp d => exact ⟨rfl, hbench⟩

/-- A turn of a drain is the same in production. -/
theorem sameTurn_burst (h : b.Matches b') (terms : Terms) (t now room : Nat) (d : Drain) :
    SameTurn Bench.Matches (burst terms now room b d) (burst (terms.readAt t) now room b' d) := by
  have hqueue : b'.queue = b.queue := (simulation_matches terms t).queue h
  unfold burst
  rw [hqueue]
  exact sameTurn_runBurst h terms t now _ _ _

/-! ## The loop -/

namespace EventLoop

/-- A loop, and what it would be in production at another reading of the clock. -/
def Matches (l l' : EventLoop) : Prop :=
  ∃ j t, Journal.Matches l.journal j ∧ l' = { l with journal := j, elapsedMicros := t }

structure SameAnswer {α : Type} (p q : α × EventLoop) : Prop where
  answer : q.1 = p.1
  loop : p.2.Matches q.2

variable {α τ : Type} {l l' : EventLoop}

namespace Matches

theorem now_eq (h : l.Matches l') : l'.now = l.now := by
  obtain ⟨j, t, -, rfl⟩ := h
  rfl

theorem pending_eq (h : l.Matches l') : l'.pending = l.pending := by
  obtain ⟨j, t, -, rfl⟩ := h
  rfl

theorem line_eq (h : l.Matches l') : l'.line = l.line := by
  obtain ⟨j, t, -, rfl⟩ := h
  rfl

theorem jobs_eq (h : l.Matches l') : l'.jobs = l.jobs := by
  obtain ⟨j, t, -, rfl⟩ := h
  rfl

theorem schedulers_eq (h : l.Matches l') : l'.schedulers = l.schedulers := by
  obtain ⟨j, t, -, rfl⟩ := h
  rfl

theorem record (h : l.Matches l') {events events' : List Event}
    (he : Journal.Matches events events') : (l.record events).Matches (l'.record events') := by
  obtain ⟨j, t, hj, rfl⟩ := h
  exact ⟨j ++ events', t, hj.append he, rfl⟩

/-- What is no diagnostic is written alike. -/
theorem recordPlain (h : l.Matches l') {events : List Event}
    (he : ∀ e ∈ events, e.isDiagnostic = false) : (l.record events).Matches (l'.record events) :=
  h.record (.of_plain he)

theorem bench (h : l.Matches l') (request : Nat) : (l.bench request).Matches (l'.bench request) := by
  obtain ⟨j, t, hj, rfl⟩ := h
  exact ⟨j, hj, rfl⟩

theorem putBench (h : l.Matches l') {b b' : Bench} (hb : b.Matches b') (request : Nat) :
    (l.putBench request b).Matches (l'.putBench request b') := by
  obtain ⟨j, t, -, rfl⟩ := h
  obtain ⟨j', hj', rfl⟩ := hb
  exact ⟨j', t, hj', rfl⟩

theorem addScheduler (h : l.Matches l') (s : Scheduler) :
    SameAnswer (l.addScheduler s) (l'.addScheduler s) := by
  obtain ⟨j, t, hj, rfl⟩ := h
  exact ⟨rfl, j, t, hj, rfl⟩

theorem register (h : l.Matches l') (request : Nat) (task : Task) :
    (l.register request task).Matches (l'.register request task) :=
  h.putBench ((h.bench request).register task) request

theorem discard (h : l.Matches l') (request : Nat) :
    SameAnswer (l.discard request) (l'.discard request) := by
  obtain ⟨hcount, hbench⟩ := (h.bench request).discard
  exact ⟨hcount, h.putBench hbench request⟩

theorem startDrain (h : l.Matches l') (request : Nat) (hook : Hook) (name : String) :
    SameAnswer (l.startDrain request hook name) (l'.startDrain request hook name) := by
  obtain ⟨j, t, hj, rfl⟩ := h
  exact ⟨rfl, j, t, hj, rfl⟩

theorem putJob (h : l.Matches l') (k : Nat) (job : Job) :
    (l.putJob k job).Matches (l'.putJob k job) := by
  obtain ⟨j, t, hj, rfl⟩ := h
  exact ⟨j, t, hj, rfl⟩

/-- The drain of a request has the same turn, or there is none. -/
theorem turn? (h : l.Matches l') (request room : Nat) (giveUpAt : Option Nat) (d : Drain) :
    (l.turn? request room giveUpAt d = none ∧ l'.turn? request room giveUpAt d = none) ∨
      ∃ turn m m', l.turn? request room giveUpAt d = some (turn, m) ∧
        l'.turn? request room giveUpAt d = some (turn, m') ∧ m.Matches m' := by
  have hbench := h.bench request
  have hput := fun {b b'} (hb : Bench.Matches b b') => h.putBench hb request
  obtain ⟨j, t, hj, rfl⟩ := h
  unfold EventLoop.turn?
  dsimp only
  cases l.schedulers[request]? with
  | none => exact .inl ⟨rfl, rfl⟩
  | some s =>
    obtain ⟨hturn, hb⟩ :=
      sameTurn_burst hbench (l.termsOf request s giveUpAt) t l.now room d
    exact .inr ⟨_, _, _, rfl, congrArg (fun turn => some (turn, _)) hturn, hput hb⟩

/-! ### Turns of jobs -/

theorem conclude (h : l.Matches l') (d : DrainJob) (r : Report) :
    SameAnswer (l.conclude d r) (l'.conclude d r) := by
  unfold EventLoop.conclude
  cases d.hook with
  | nothing | panic => exact ⟨rfl, h⟩
  | tell | observe => exact ⟨rfl, h.recordPlain (by simp [Event.isDiagnostic])⟩

theorem settle (h : l.Matches l') (k : Nat) (d : DrainJob) (turn : Turn) :
    SameAnswer (l.settle k d turn) (l'.settle k d turn) := by
  cases turn with
  | finished drain =>
    obtain ⟨hending, hloop⟩ := h.conclude d drain.report
    simp only [EventLoop.settle, hending]
    exact ⟨rfl, hloop.putJob k _⟩
  | givenUp | waiting => exact ⟨rfl, h.putJob k _⟩
  | go | paused =>
    simp only [EventLoop.settle, h.now_eq]
    exact ⟨rfl, h.putJob k _⟩

theorem runDrain (h : l.Matches l') (k : Nat) (d : DrainJob) :
    SameAnswer (l.runDrain k d) (l'.runDrain k d) := by
  unfold EventLoop.runDrain
  rcases h.turn? d.request allowance none d.drain with ⟨hn, hn'⟩ | ⟨turn, m, m', hs, hs', hm⟩
  · rw [hn, hn']
    exact ⟨rfl, h.putJob k _⟩
  · rw [hs, hs']
    exact hm.settle k d turn

theorem runJob (h : l.Matches l') (k : Nat) : SameAnswer (l.runJob k) (l'.runJob k) := by
  have hdrain := h.runDrain k
  obtain ⟨j, t, hj, rfl⟩ := h
  unfold EventLoop.runJob
  dsimp only
  split
  · split
    · exact ⟨rfl, j, t, hj, rfl⟩
    · exact ⟨rfl, j, t, hj, rfl⟩
  · split
    · exact ⟨rfl, j, t, hj, rfl⟩
    · exact ⟨rfl, j, t, hj, rfl⟩
  · split
    · exact hdrain _
    · exact ⟨rfl, j, t, hj, rfl⟩
  · exact ⟨rfl, j, t, hj, rfl⟩
  · exact ⟨rfl, j, t, hj, rfl⟩

theorem runTurns (h : l.Matches l') (aside line : List Nat) :
    SameAnswer (runTurns aside line l) (runTurns aside line l') := by
  induction line generalizing aside l l' with
  | nil => exact ⟨rfl, h⟩
  | cons k line ih =>
    obtain ⟨hside, hloop⟩ := h.runJob k
    obtain ⟨steps, m, hs⟩ : ∃ steps m, l.runJob k = (steps, m) := ⟨_, _, rfl⟩
    obtain ⟨steps', m', hs'⟩ : ∃ steps m, l'.runJob k = (steps, m) := ⟨_, _, rfl⟩
    rw [hs, hs'] at hside hloop
    obtain rfl : steps' = steps := hside
    unfold EventLoop.runTurns
    rw [hs, hs']
    cases steps' with
    | true => exact ih hloop (k :: aside)
    | false => exact ih hloop aside

theorem runRound (h : l.Matches l') : l.runRound.Matches l'.runRound := by
  obtain ⟨haside, hloop⟩ := h.runTurns [] (l.line.take roundSize)
  unfold EventLoop.runRound
  rw [h.line_eq]
  obtain ⟨j, t, hj, hm⟩ := hloop
  refine ⟨j, t, hj, ?_⟩
  simp only [hm, haside]

/-! ### Waiting -/

theorem moveClock (h : l.Matches l') (time : Nat) :
    (l.moveClock time).Matches (l'.moveClock time) := by
  obtain ⟨j, t, hj, rfl⟩ := h
  exact ⟨j, t, hj, rfl⟩

theorem refill (h : l.Matches l') : l.refill.Matches l'.refill := by
  obtain ⟨j, t, hj, rfl⟩ := h
  exact ⟨j, t, hj, rfl⟩

theorem close (h : l.Matches l') (answer : α) :
    SameAnswer (l.close answer : Look α τ × EventLoop) (l'.close answer) := by
  obtain ⟨j, t, hj, rfl⟩ := h
  exact ⟨rfl, j, t, hj, rfl⟩

/-- What is waited for comes in production as well, if it is looked at in the same way. -/
theorem waitFrom {look : EventLoop → τ → Look α τ × EventLoop}
    (hlook : ∀ {l l'}, l.Matches l' → ∀ s, SameAnswer (look l s) (look l' s)) (bound : Nat)
    (h : l.Matches l') (s : τ) :
    SameAnswer (waitFrom look bound l s) (waitFrom look bound l' s) := by
  induction bound generalizing l l' s with
  | zero => exact ⟨rfl, h⟩
  | succ bound ih =>
    obtain ⟨hsame, hloop⟩ := hlook h s
    obtain ⟨seen, m, hs⟩ : ∃ seen m, look l s = (seen, m) := ⟨_, _, rfl⟩
    obtain ⟨seen', m', hs'⟩ : ∃ seen m, look l' s = (seen, m) := ⟨_, _, rfl⟩
    rw [hs, hs'] at hsame hloop
    obtain rfl : seen' = seen := hsame
    unfold EventLoop.waitFrom
    rw [hs, hs']
    rcases seen' with answer | s | ⟨time, s⟩
    · exact ⟨rfl, hloop⟩
    · exact ih hloop.runRound.refill s
    · -- the same jobs wait, so both move the clock to the same time
      have hdue : m'.nextDue? = m.nextDue? := by
        unfold nextDue?
        rw [hloop.jobs_eq]
      dsimp only
      rw [hloop.line_eq, hdue]
      split
      · split
        · exact ⟨rfl, hloop⟩
        · exact ih (hloop.moveClock _).refill s
      · exact ih hloop.runRound.refill s

theorem wait {look : EventLoop → τ → Look α τ × EventLoop}
    (hlook : ∀ {l l'}, l.Matches l' → ∀ s, SameAnswer (look l s) (look l' s))
    (h : l.Matches l') (s : τ) : SameAnswer (l.wait look s) (l'.wait look s) := by
  have hwork : l'.work = l.work := by
    unfold work
    rw [h.schedulers_eq, h.jobs_eq]
  unfold EventLoop.wait
  rw [hwork, h.jobs_eq]
  exact waitFrom hlook _ h s

theorem lookClock (h : l.Matches l') (time : Nat) (s : Unit) :
    SameAnswer (lookClock time l s) (lookClock time l' s) := by
  have hclosed : SameAnswer (l.close () : Look Unit Unit × EventLoop) (l'.close ()) := h.close ()
  obtain ⟨j, t, hj, rfl⟩ := h
  unfold EventLoop.lookClock
  split
  · exact ⟨rfl, j, t, hj, rfl⟩
  · split
    · exact hclosed
    · exact ⟨rfl, j, t, hj, rfl⟩

theorem sleep (h : l.Matches l') (millis : Nat) : (l.sleep millis).Matches (l'.sleep millis) := by
  unfold EventLoop.sleep
  rw [h.now_eq]
  exact (wait (fun hm s => hm.lookClock _ s) h ()).loop

theorem lookIdle (h : l.Matches l') (w : Waiter) :
    SameAnswer (lookIdle l w) (lookIdle l' w) := by
  have hclosed : SameAnswer (l.close l.pending.isIdle : Look Bool Waiter × EventLoop)
      (l'.close l.pending.isIdle) := h.close _
  obtain ⟨j, t, hj, rfl⟩ := h
  unfold EventLoop.lookIdle
  split
  · exact ⟨rfl, j, t, hj, rfl⟩
  · split
    · exact ⟨rfl, j, t, hj, rfl⟩
    · split
      · exact hclosed
      · exact ⟨rfl, j, t, hj, rfl⟩

theorem waitIdle (h : l.Matches l') (millis : Nat) :
    SameAnswer (l.waitIdle millis) (l'.waitIdle millis) := by
  unfold EventLoop.waitIdle
  rw [h.pending_eq, h.now_eq]
  split
  · exact ⟨rfl, h⟩
  · obtain ⟨hanswer, hloop⟩ :=
      wait (fun hm s => hm.lookIdle s) h ⟨l.now + millis, l.pending.wakeups⟩
    dsimp only
    rw [hanswer, hloop.pending_eq]
    split
    · exact ⟨rfl, hloop⟩
    · exact ⟨rfl, hloop.recordPlain (by simp [Event.isDiagnostic])⟩

theorem lookEnding (h : l.Matches l') (k : Nat) (s : Unit) :
    SameAnswer (lookEnding k l s) (lookEnding k l' s) := by
  have hclosed := fun ending : Ending =>
    (h.close ending : SameAnswer (l.close ending : Look Ending Unit × EventLoop) _)
  have hending : l'.ending? k = l.ending? k := by
    unfold ending?
    rw [h.jobs_eq]
  have hcredit : l'.credit = l.credit := by
    obtain ⟨j, t, -, rfl⟩ := h
    rfl
  unfold EventLoop.lookEnding
  rw [hending, hcredit]
  split
  · exact ⟨rfl, h⟩
  · split
    · exact hclosed _
    · exact ⟨rfl, h⟩

theorem await (h : l.Matches l') (k : Nat) : SameAnswer (l.await k) (l'.await k) := by
  obtain ⟨hanswer, hloop⟩ := wait (fun hm s => hm.lookEnding k s) h ()
  exact ⟨congrArg (·.getD .done) hanswer, hloop⟩

theorem join (h : l.Matches l') (k : Nat) : SameAnswer (l.join k) (l'.join k) := by
  obtain ⟨hanswer, hloop⟩ := h.await k
  obtain ⟨ending, m, hs⟩ : ∃ ending m, l.await k = (ending, m) := ⟨_, _, rfl⟩
  obtain ⟨ending', m', hs'⟩ : ∃ ending m, l'.await k = (ending, m) := ⟨_, _, rfl⟩
  rw [hs, hs'] at hanswer hloop
  obtain rfl : ending' = ending := hanswer
  unfold EventLoop.join
  rw [hs, hs']
  cases ending' with
  | reported r => exact ⟨rfl, hloop⟩
  | lost error => exact ⟨rfl, hloop.recordPlain (by simp [Event.isDiagnostic])⟩
  | done => exact ⟨rfl, hloop⟩

theorem holdTermination (h : l.Matches l') (host : HostModel) (millis : Nat) :
    SameAnswer (l.holdTermination host millis) (l'.holdTermination host millis) := by
  unfold EventLoop.holdTermination
  split
  · exact h.waitIdle millis
  · exact ⟨rfl, h⟩

/-! ### Single steps -/

theorem stepDrain (h : l.Matches l') (k : Nat) (d : DrainJob) (s : Scheduler) (now room : Nat)
    (watched : Bool) :
    (l.stepDrain k d s now room watched).Matches (l'.stepDrain k d s now room watched) := by
  obtain ⟨hturn, hbench⟩ : SameTurn Bench.Matches
      (step (l.termsOf d.request s none) now (l.bench d.request) { d.drain with room, watched })
      (step (l'.termsOf d.request s none) now (l'.bench d.request)
        { d.drain with room, watched }) := by
    have hb := h.bench d.request
    obtain ⟨j, t, -, rfl⟩ := h
    exact (simulation_matches (l.termsOf d.request s none) t).step hb now _
  unfold EventLoop.stepDrain
  dsimp only
  rw [hturn]
  exact ((h.putBench hbench d.request).settle k d _).loop

theorem cancelDrain (h : l.Matches l') (k : Nat) (d : DrainJob) :
    (l.cancelDrain k d).Matches (l'.cancelDrain k d) :=
  (h.putBench (matches_giveUp (h.bench d.request) d.drain) d.request).putJob k _

end Matches
end EventLoop
end EdgeRender.Deferred
