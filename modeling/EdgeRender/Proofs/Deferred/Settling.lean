import EdgeRender.Proofs.Deferred.Interleaving
import EdgeRender.Proofs.Deferred.Share

/-! # What a turn leaves behind

Besides what it does on its bench, a turn of a drain changes the job that it is made by,
and the hook of a drain that has come to its end writes to the journal. Of other requests
nothing is written and no job is changed.
-/
namespace EdgeRender.Deferred

/-- What a bench writes when a task is registered names no request. -/
theorem Bench.journal_register (b : Bench) (task : Task) :
    ∃ events, (b.register task).journal = b.journal ++ events ∧
      ∀ e ∈ events, e.request? = none := by
  cases hc : b.queue.closed with
  | true =>
    rw [Bench.register_of_closed hc]
    exact ⟨_, rfl, by simp [Event.request?]⟩
  | false =>
    rw [Bench.register_of_open hc]
    exact ⟨[], (List.append_nil _).symm, fun e he => nomatch he⟩

/-- A step of a drain writes of no other request. -/
theorem Advances.journal {terms : Terms} {b c : Bench} {d : Drain} {turn : Turn}
    (h : Advances terms b d c turn) :
    ∃ events, c.journal = b.journal ++ events ∧
      (∀ n, n ≠ terms.request → Journal.Silent n events) ∧
      Journal.phasesOf terms.request events = [] := by
  cases h with
  | closed hi hq => exact ⟨[], (List.append_nil _).symm, fun _ _ e he => (nomatch he), rfl⟩
  | @taken t ts e hi hq he ht =>
    refine ⟨[.started terms.request t.id], rfl, ?_, rfl⟩
    intro n hn ev hev hreq
    rw [List.mem_singleton.mp hev] at hreq
    exact hn (Option.some.inj hreq).symm
  | @registered task e hr hf hs =>
    obtain ⟨events, hj, hn⟩ := b.journal_register task
    refine ⟨events, hj, fun n _ => Journal.silent_of_nameless hn n, ?_⟩
    exact Journal.phasesOf_of_silent (Journal.silent_of_nameless hn _)
  | @noted text e hr hf hs =>
    refine ⟨[.note text], rfl, fun n _ => ?_, rfl⟩
    exact Journal.silent_of_nameless (by simp [Event.request?]) n
  | rested hr hf hs hu => exact ⟨[], (List.append_nil _).symm, fun _ _ e he => (nomatch he), rfl⟩
  | @concluded o events e hr ht hi he hn =>
    refine ⟨events, rfl, fun n _ => Journal.silent_of_nameless hn n, ?_⟩
    exact Journal.phasesOf_of_silent (Journal.silent_of_nameless hn _)

/-- A step never gives a drain up. -/
theorem Advances.ne_givenUp {terms : Terms} {b c : Bench} {d : Drain} {turn : Turn}
    (h : Advances terms b d c turn) (e : Drain) : turn ≠ .givenUp e := by
  cases h with
  | rested hr hf hs hu =>
    intro he
    rw [he] at hu
    cases hu
  | _ => simp

/-- What is told when a drain has had a turn. -/
def DrainJob.told (d : DrainJob) : Turn → List Phase
  | .finished _ => if d.hook = .observe then [.drained] else []
  | .go _ | .paused _ | .waiting .. | .givenUp _ => []

/-- The job of a request shows at which stage its tasks are, once their drain has begun. -/
inductive Job.Shows (request : Nat) : Job → Stage → Prop
  | draining {d : DrainJob} (hd : d.request = request) :
      Shows request (.drain d) (.draining d.drain)
  | reported {r : Report} : Shows request (.over (.reported r)) (.reported r)
  | cancelled {begun : List Ticket} : Shows request (.over .done) (.cancelled begun)

/-- Does the hook of a drain leave the report alone? -/
def Hook.isSafe : Hook → Bool
  | .nothing | .tell | .observe => true
  | .panic _ => false

/-- What becomes of a job and of the journal when the drain `d` has had a turn. -/
structure Settles (d : DrainJob) (turn : Turn) (events : List Event) (job : Job) : Prop where
  shows : d.hook.isSafe = true → job.Shows d.request (Stage.ofTurn turn)
  drains : (job.drainOf? d.request).toList.map DrainJob.drain = (Stage.ofTurn turn).drains
  hook : ∀ e, job.drainOf? d.request = some e → e.hook = d.hook
  others : ∀ n, n ≠ d.request → job.drainOf? n = none
  fits : (∃ e, job = .drain e ∧ e.request = d.request) ∨ ∃ ending, job = .over ending
  silent : ∀ n, n ≠ d.request → Journal.Silent n events
  phases : Journal.phasesOf d.request events = d.told turn
  started : Journal.startedOf d.request events = []

theorem settles_over {d : DrainJob} {turn : Turn} {events : List Event} {ending : Ending}
    (hshow : d.hook.isSafe = true → (Job.over ending).Shows d.request (Stage.ofTurn turn))
    (hd : (Stage.ofTurn turn).drains = []) (hn : ∀ n, n ≠ d.request → Journal.Silent n events)
    (hp : Journal.phasesOf d.request events = d.told turn)
    (hs : Journal.startedOf d.request events = []) :
    Settles d turn events (.over ending) :=
  ⟨hshow, hd.symm, fun _ he => (nomatch he), fun _ _ => rfl, .inr ⟨ending, rfl⟩, hn, hp, hs⟩

theorem settles_on {d : DrainJob} {turn : Turn} (hu : turn.isUnderWay = true)
    (due : Nat) : Settles d turn [] (.drain { d with drain := turn.drain, due }) := by
  have hself : (Job.drain { d with drain := turn.drain, due }).drainOf? d.request
      = some { d with drain := turn.drain, due } := Job.drainOf?_self _
  refine ⟨?_, ?_, ?_, ?_, .inl ⟨_, rfl, rfl⟩, fun _ _ e he => (nomatch he), ?_, rfl⟩
  · intro _
    rw [Stage.ofTurn_of_isUnderWay hu]
    exact .draining rfl
  · rw [hself, Stage.ofTurn_of_isUnderWay hu]
    rfl
  · intro e he
    rw [hself] at he
    rw [← Option.some.inj he]
  · intro n hn
    exact Job.drainOf?_of_ne (Ne.symm hn)
  · cases turn with
    | finished | givenUp => cases hu
    | _ => rfl

namespace EventLoop

/-- The hook of a drain that has come to its end writes to the journal, if anything. -/
theorem exists_conclude (l : EventLoop) (d : DrainJob) (e : Drain) :
    ∃ events, (l.conclude d e.report).2 = l.record events ∧
      Settles d (.finished e) events (.over (l.conclude d e.report).1) := by
  have hl : l = l.record [] := l.record_nil.symm
  have hsilent : ∀ n, n ≠ d.request → Journal.Silent n [] := fun _ _ _ he => nomatch he
  unfold conclude
  cases hh : d.hook with
  | nothing =>
    refine ⟨[], hl, settles_over (fun _ => .reported) rfl hsilent ?_ rfl⟩
    simp [DrainJob.told, hh, Journal.phasesOf]
  | tell =>
    refine ⟨_, rfl, settles_over (fun _ => .reported) rfl (fun n _ => ?_) ?_ rfl⟩
    · exact Journal.silent_of_nameless (by simp [Event.request?]) n
    · simp [DrainJob.told, hh, Journal.phasesOf, Event.phaseOf?]
  | panic message =>
    refine ⟨[], hl, settles_over (fun hs => ?_) rfl hsilent ?_ rfl⟩
    · rw [hh] at hs
      cases hs
    · simp [DrainJob.told, hh, Journal.phasesOf]
  | observe =>
    refine ⟨_, rfl, settles_over (fun _ => .reported) rfl ?_ ?_ rfl⟩
    · intro n hn ev hev hreq
      rw [List.mem_singleton.mp hev] at hreq
      exact hn (Option.some.inj hreq).symm
    · simp [DrainJob.told, hh, Journal.phasesOf, Event.phaseOf?]

theorem exists_settle (l : EventLoop) (j : Nat) (d : DrainJob) (turn : Turn) :
    ∃ events job, (l.settle j d turn).2 = (l.record events).putJob j job ∧
      Settles d turn events job := by
  have hl : l = l.record [] := l.record_nil.symm
  cases turn with
  | finished e =>
    obtain ⟨events, hc, hs⟩ := l.exists_conclude d e
    refine ⟨events, .over (l.conclude d e.report).1, ?_, hs⟩
    rw [← hc]
    rfl
  | givenUp e =>
    have hsilent : ∀ n, n ≠ d.request → Journal.Silent n [] := fun _ _ _ he => nomatch he
    refine ⟨[], .over .done, ?_, settles_over (fun _ => .cancelled) rfl hsilent rfl rfl⟩
    rw [← hl]
    rfl
  | waiting time e =>
    refine ⟨[], _, ?_, settles_on rfl time⟩
    rw [← hl]
    rfl
  | go e | paused e =>
    refine ⟨[], _, ?_, settles_on rfl l.now⟩
    rw [← hl]
    rfl

/-- What a step of the drain `d` comes to: its bench `b`, how the drain goes on, what is
written and what becomes of its job. -/
structure Steps (l : EventLoop) (d : DrainJob) (s : Scheduler) (room : Nat) (watched : Bool)
    (b : Bench) (turn : Turn) (events₁ events₂ : List Event) (job : Job) : Prop where
  advances : Advances (l.termsOf d.request s none) (l.bench d.request)
    { d.drain with room, watched } b turn
  journal : b.journal = l.journal ++ events₁
  silent : ∀ n, n ≠ d.request → Journal.Silent n events₁
  phases : Journal.phasesOf d.request events₁ = []
  settles : Settles d turn events₂ job

/-- A step of a drain changes the bench of its request, its job and the journal. -/
theorem exists_stepDrain (l : EventLoop) (j : Nat) (d : DrainJob) (s : Scheduler)
    (now room : Nat) (watched : Bool) : ∃ b turn events₁ events₂ job,
    l.Steps d s room watched b turn events₁ events₂ job ∧
      l.stepDrain j d s now room watched
        = ((l.putBench d.request b).record events₂).putJob j job := by
  obtain ⟨b, turn, hst⟩ : ∃ b turn, step (l.termsOf d.request s none) now
      (l.bench d.request) { d.drain with room, watched } = (b, turn) := ⟨_, _, rfl⟩
  have hadv := advances_of_step hst
  obtain ⟨events₁, hb, hn, hp⟩ := hadv.journal
  obtain ⟨events₂, job, hl, hset⟩ := (l.putBench d.request b).exists_settle j d turn
  refine ⟨b, turn, events₁, events₂, job, ⟨hadv, hb, hn, hp, hset⟩, ?_⟩
  simp only [stepDrain, hst]
  exact hl

end EventLoop

end EdgeRender.Deferred
