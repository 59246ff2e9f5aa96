import EdgeRender.Proofs.Deferred.Step

/-! # The life of one queue

Whatever can happen to the deferred tasks of one request, in any order: tasks are
registered from outside, at any time, and by tasks that run; other requests change what
is shared; the drain begins and goes on step by step, each step at any time and with any
room; the drain is dropped on the way, or the queue is dropped with what is in it. A
session also keeps the tasks that were let in, which only serves to speak of them.

`Sound` is what every session keeps, and `sound_play` that it does.
-/
namespace EdgeRender.Deferred

/-- How far the tasks of a queue have come. -/
inductive Stage where
  | waiting
  | draining (d : Drain)
  | reported (r : Report)
  | cancelled (begun : List Ticket)
  | discarded

namespace Stage

def begun : Stage → List Ticket
  | .waiting | .discarded => []
  | .draining d => d.begun
  | .reported r => r.outcomes.map Outcome.ticket
  | .cancelled begun => begun

def isOver : Stage → Bool
  | .waiting | .draining _ => false
  | .reported _ | .cancelled _ | .discarded => true

def ofTurn : Turn → Stage
  | .go d | .paused d | .waiting _ d => .draining d
  | .finished d => .reported d.report
  | .givenUp d => .cancelled d.begun

/-- A turn that leaves the drain under way does not end the draining. -/
theorem ofTurn_of_isUnderWay {turn : Turn} (h : turn.isUnderWay = true) :
    ofTurn turn = .draining turn.drain := by
  cases turn with
  | finished | givenUp => cases h
  | _ => rfl

end Stage

def Queue.admitted (q : Queue) (tasks : List Task) : List Task :=
  if q.closed then [] else tasks

/-- A queue on its bench, how far its tasks have come, and the tasks that were let in, in
the order of their registration. -/
structure Session where
  bench : Bench
  stage : Stage := .waiting
  accepted : List Task := []

inductive Happening where
  /-- Somebody who holds a registrar registers a task. -/
  | register (task : Task)
  /-- Other requests change the pending work and write to the journal. -/
  | others (pending : Pending) (events : List Event)
  /-- The drain begins. -/
  | begin
  /-- The drain goes on by one step. -/
  | step (now room : Nat) (watched : Bool)
  /-- The drain is dropped on the way. -/
  | cancel
  /-- The queue is dropped, before its drain begins or once more after the end. -/
  | discard

namespace Session

/-- The session after something has happened. What cannot happen at its stage changes
nothing. -/
def after (terms : Terms) (s : Session) : Happening → Session
  | .register task =>
    { s with
      bench := s.bench.register task
      accepted := s.accepted ++ s.bench.queue.admitted [task] }
  | .others pending events =>
    let told := events.filter (·.request? != some terms.request)
    { s with bench := { s.bench with pending, journal := s.bench.journal ++ told } }
  | .begin =>
    match s.stage with
    | .waiting => { s with stage := .draining {} }
    | _ => s
  | .step now room watched =>
    match s.stage with
    | .draining d =>
      let d := { d with room, watched }
      let (bench, turn) := Deferred.step terms now s.bench d
      { bench
        stage := .ofTurn turn
        accepted := s.accepted ++ s.bench.queue.admitted d.registers?.toList }
    | _ => s
  | .cancel =>
    match s.stage with
    | .draining d => { s with bench := giveUp s.bench d, stage := .cancelled d.begun }
    | _ => s
  | .discard =>
    match s.stage with
    | .waiting => { s with bench := s.bench.discard.2, stage := .discarded }
    | .draining _ => s
    | _ => { s with bench := s.bench.discard.2 }

def play (terms : Terms) (s : Session) (hs : List Happening) : Session :=
  hs.foldl (after terms) s

/-- Nothing has happened yet. -/
structure IsNew (request : Nat) (s : Session) : Prop where
  queue : s.bench.queue = {}
  stage : s.stage = .waiting
  accepted : s.accepted = []
  journal : Journal.startedOf request s.bench.journal = []

@[simp] theorem play_nil (terms : Terms) (s : Session) : s.play terms [] = s := rfl

@[simp] theorem play_cons (terms : Terms) (s : Session) (h : Happening) (hs : List Happening) :
    s.play terms (h :: hs) = (s.after terms h).play terms hs := rfl

theorem play_append (terms : Terms) (s : Session) (hs ks : List Happening) :
    s.play terms (hs ++ ks) = (s.play terms hs).play terms ks :=
  List.foldl_append

end Session

/-- The tickets of tasks that are numbered as they come. -/
def ticketsOf (tasks : List Task) : List Ticket :=
  tasks.mapIdx fun i t => ⟨i, t.source, t.label⟩

theorem ticketsOf_concat (tasks : List Task) (task : Task) :
    ticketsOf (tasks ++ [task])
      = ticketsOf tasks ++ [(Queued.mk tasks.length task).ticket] := by
  simp [ticketsOf, Queued.ticket]

theorem map_id_ticketsOf (tasks : List Task) :
    (ticketsOf tasks).map Ticket.id = List.range tasks.length := by
  unfold ticketsOf
  apply List.ext_getElem
  · simp
  · intro i hi hj
    simp

namespace Session

/-- What every session keeps. -/
structure Sound (request : Nat) (s : Session) : Prop where
  /-- Numbers are given out one after another. -/
  numbered : s.bench.queue.nextId = s.accepted.length
  /-- The journal tells every task that was taken up. -/
  told : Journal.startedOf request s.bench.journal = s.stage.begun.map Ticket.id
  /-- Until the end the tasks let in are those taken up and those queued, in order. -/
  underWay : s.stage.isOver = false →
    s.bench.queue.closed = false ∧
      s.stage.begun ++ s.bench.queue.tasks.map Queued.ticket = ticketsOf s.accepted
  /-- After the end the queue is closed, and nothing is left in it. -/
  ended : s.stage.isOver = true → s.bench.queue.closed = true ∧ s.bench.queue.tasks = []
  /-- Tasks are taken up in the order in which they were let in. -/
  inOrder : s.stage.begun <+: ticketsOf s.accepted
  /-- A report tells of every task that was let in. -/
  complete : ∀ r, s.stage = .reported r → s.stage.begun = ticketsOf s.accepted

theorem IsNew.sound {request : Nat} {s : Session} (h : s.IsNew request) : s.Sound request where
  numbered := by rw [h.queue, h.accepted]; rfl
  told := by rw [h.journal, h.stage]; rfl
  underWay := by
    intro _
    rw [h.queue, h.stage, h.accepted]
    exact ⟨rfl, rfl⟩
  ended := by
    intro ho
    rw [h.stage] at ho
    cases ho
  inOrder := by rw [h.stage]; exact List.nil_prefix
  complete := by
    intro r hr
    rw [h.stage] at hr
    cases hr

variable {request : Nat} {s : Session}

/-- A queue is closed exactly after the end. -/
theorem Sound.closed_eq (h : s.Sound request) : s.bench.queue.closed = s.stage.isOver := by
  cases ho : s.stage.isOver with
  | false => exact (h.underWay ho).1
  | true => exact (h.ended ho).1

/-- After the end the queue keeps nothing but the number of tasks that were let in. -/
theorem Sound.queue_of_isOver (h : s.Sound request) (ho : s.stage.isOver = true) :
    s.bench.queue = ⟨[], s.accepted.length, true⟩ := by
  obtain ⟨hc, hq⟩ := h.ended ho
  rw [← hc, ← hq, ← h.numbered]

/-- What happens beside the queue and begins no task of it changes nothing that counts. -/
theorem Sound.beside (h : s.Sound request) {c : Bench} {events : List Event} {stage : Stage}
    {accepted : List Task} (hq : c.queue = s.bench.queue)
    (hj : c.journal = s.bench.journal ++ events) (hn : Journal.startedOf request events = [])
    (hb : stage.begun = s.stage.begun) (ho : stage.isOver = s.stage.isOver)
    (hr : ∀ r, stage = .reported r → s.stage = .reported r) (ha : accepted = s.accepted) :
    Sound request ⟨c, stage, accepted⟩ := by
  subst ha
  refine ⟨?_, ?_, ?_, ?_, ?_, ?_⟩
  · rw [hq]; exact h.numbered
  · rw [hj, Journal.startedOf_append, hn, List.append_nil, hb]
    exact h.told
  · rw [hq, ho, hb]; exact h.underWay
  · rw [hq, ho]; exact h.ended
  · rw [hb]; exact h.inOrder
  · intro r hs
    rw [hb]
    exact h.complete r (hr r hs)

/-- A registration is kept exactly if the task is let in. -/
theorem Sound.register (h : s.Sound request) (task : Task) {stage : Stage}
    (hb : stage.begun = s.stage.begun) (ho : stage.isOver = s.stage.isOver)
    (hr : ∀ r, stage = .reported r → s.stage = .reported r) :
    Sound request
      ⟨s.bench.register task, stage, s.accepted ++ s.bench.queue.admitted [task]⟩ := by
  -- The queue is closed exactly after the end, so the stage tells whether the task gets in.
  cases hc : s.stage.isOver with
  | true =>
    have hq : s.bench.queue.closed = true := h.closed_eq.trans hc
    rw [Bench.register_of_closed hq]
    exact h.beside rfl rfl rfl hb ho hr (by simp [Queue.admitted, hq])
  | false =>
    obtain ⟨hq, hroll⟩ := h.underWay hc
    have hnew : ticketsOf (s.accepted ++ [task])
        = ticketsOf s.accepted ++ [(Queued.mk s.bench.queue.nextId task).ticket] := by
      rw [h.numbered, ticketsOf_concat]
    have hadm : s.bench.queue.admitted [task] = [task] := by simp [Queue.admitted, hq]
    rw [hadm, Bench.register_of_open hq]
    refine ⟨?_, ?_, ?_, ?_, ?_, ?_⟩
    · simp [h.numbered]
    · rw [hb]; exact h.told
    · intro _
      refine ⟨hq, ?_⟩
      show stage.begun ++ List.map Queued.ticket (s.bench.queue.tasks ++ [_]) = _
      rw [hnew, ← hroll, hb, List.map_append, List.append_assoc]
      rfl
    · intro hover
      rw [ho, hc] at hover
      cases hover
    · rw [hnew, hb]
      exact h.inOrder.trans (List.prefix_append _ _)
    · intro r hs
      have hover := congrArg Stage.isOver (hr r hs)
      rw [hc] at hover
      cases hover

/-- Dropping what is queued ends a session, unless it has ended. -/
theorem Sound.discard (h : s.Sound request) {c : Bench} {stage : Stage}
    (hq : c.queue = s.bench.queue.discard) (hj : c.journal = s.bench.journal)
    (hb : stage.begun = s.stage.begun) (ho : stage.isOver = true)
    (hr : ∀ r, stage = .reported r → s.stage = .reported r) :
    Sound request ⟨c, stage, s.accepted⟩ := by
  refine ⟨?_, ?_, ?_, ?_, ?_, ?_⟩
  · rw [hq]; exact h.numbered
  · rw [hj, hb]; exact h.told
  · intro hu
    rw [ho] at hu
    cases hu
  · intro _
    rw [hq]
    exact ⟨rfl, rfl⟩
  · rw [hb]; exact h.inOrder
  · intro r hs
    rw [hb]
    exact h.complete r (hr r hs)

/-- A drain that finds the queue empty ends with an outcome for every task that was let
in. -/
theorem Sound.finish {d : Drain} (h : s.Sound request) (hb : s.stage.begun = d.begun)
    (ho : s.stage.isOver = false) (hi : d.activity = .idle) (hq : s.bench.queue.tasks = []) :
    Sound request
      ⟨{ s.bench with queue := { s.bench.queue with closed := true } }, .reported d.report,
        s.accepted⟩ := by
  obtain ⟨-, hroll⟩ := h.underWay ho
  have hend : d.outcomes.map Outcome.ticket = d.begun := by simp [Drain.begun, hi]
  have hall : d.outcomes.map Outcome.ticket = ticketsOf s.accepted := by
    rw [hb, hq, List.map_nil, List.append_nil] at hroll
    exact hend.trans hroll
  refine ⟨h.numbered, ?_, nofun, fun _ => ⟨rfl, hq⟩, ?_, fun _ _ => hall⟩
  · have htold := h.told
    rw [hb, ← hend] at htold
    exact htold
  · exact ⟨[], (List.append_nil _).trans hall⟩

/-- A drain takes up the first task of the queue. -/
theorem Sound.takeUp {d e : Drain} {t : Queued} {ts : List Queued} (h : s.Sound request)
    (hb : s.stage.begun = d.begun) (ho : s.stage.isOver = false) (hi : d.activity = .idle)
    (hq : s.bench.queue.tasks = t :: ts) (he : e.outcomes = d.outcomes)
    (ht : e.activity.ticket? = some t.ticket) :
    Sound request
      ⟨{ s.bench with queue := { s.bench.queue with tasks := ts } }.record [.started request t.id],
        .draining e, s.accepted⟩ := by
  obtain ⟨hopen, hroll⟩ := h.underWay ho
  have hbe : e.begun = d.begun ++ [t.ticket] := by simp [Drain.begun, he, ht, hi]
  have hroll' : e.begun ++ ts.map Queued.ticket = ticketsOf s.accepted := by
    rw [hbe, ← hroll, hb, hq, List.append_assoc]
    rfl
  refine ⟨h.numbered, ?_, fun _ => ⟨hopen, hroll'⟩, nofun, ⟨_, hroll'⟩, nofun⟩
  show Journal.startedOf request (s.bench.journal ++ [.started request t.id])
    = e.begun.map Ticket.id
  rw [hbe, Journal.startedOf_append, h.told, hb, List.map_append]
  simp [Journal.startedOf, Event.startedOf?, Queued.ticket]

/-- A step of the drain keeps what every session keeps. -/
theorem Sound.step {terms : Terms} {d : Drain} {c : Bench} {turn : Turn}
    (h : s.Sound terms.request) (hb : s.stage.begun = d.begun) (ho : s.stage.isOver = false)
    (ha : Advances terms s.bench d c turn) :
    Sound terms.request
      ⟨c, .ofTurn turn, s.accepted ++ s.bench.queue.admitted d.registers?.toList⟩ := by
  have hnone : d.registers? = none →
      s.accepted ++ s.bench.queue.admitted d.registers?.toList = s.accepted := by
    intro hr
    simp [hr, Queue.admitted]
  cases ha with
  | closed hi hq =>
    rw [hnone (Drain.registers?_of_idle hi)]
    exact h.finish hb ho hi hq
  | taken hi hq he ht =>
    rw [hnone (Drain.registers?_of_idle hi)]
    exact h.takeUp hb ho hi hq he ht
  | @registered task e hr hf hsame =>
    rw [hr]
    refine h.register task ?_ ?_ nofun
    · rw [hb]; exact hsame.begun
    · rw [ho]; rfl
  | @noted text e hr hf hsame =>
    refine h.beside rfl rfl rfl ?_ ?_ nofun (hnone hr)
    · rw [hb]; exact hsame.begun
    · rw [ho]; rfl
  | rested hr hf hsame hu =>
    rw [Stage.ofTurn_of_isUnderWay hu]
    refine h.beside rfl (List.append_nil _).symm rfl ?_ ?_ nofun (hnone hr)
    · rw [hb]; exact hsame.begun
    · rw [ho]; rfl
  | @concluded o events e hr ht hi he hn =>
    have hsilent := Journal.silent_of_nameless hn terms.request
    refine h.beside rfl rfl (Journal.startedOf_of_silent hsilent) ?_ ?_ nofun (hnone hr)
    · rw [hb]
      show e.begun = d.begun
      simp [Drain.begun, he, ht, hi]
    · rw [ho]; rfl

theorem sound_after {terms : Terms} (h : s.Sound terms.request) (happening : Happening) :
    (s.after terms happening).Sound terms.request := by
  -- What cannot happen at a stage changes nothing. The queue is dropped by a cancellation too.
  cases happening with
  | register task => exact h.register task rfl rfl (fun _ => id)
  | others pending events =>
    refine h.beside rfl rfl (Journal.startedOf_of_silent ?_) rfl rfl (fun _ => id) rfl
    intro e he
    simpa using (List.mem_filter.mp he).2
  | begin =>
    cases hs : s.stage with
    | waiting =>
      simp only [after, hs]
      refine h.beside rfl (List.append_nil _).symm rfl ?_ ?_
        (fun r hr => nomatch hr) rfl
      · rw [hs]; rfl
      · rw [hs]; rfl
    | _ => simpa only [after, hs] using h
  | step now room watched =>
    cases hs : s.stage with
    | draining d =>
      simp only [after, hs]
      refine h.step ?_ ?_ (advances_of_step rfl)
      · rw [hs]; rfl
      · rw [hs]; rfl
    | _ => simpa only [after, hs] using h
  | cancel =>
    cases hs : s.stage with
    | draining d =>
      simp only [after, hs]
      refine h.discard rfl rfl ?_ rfl (fun r hr => nomatch hr)
      rw [hs]
      rfl
    | _ => simpa only [after, hs] using h
  | discard =>
    cases hs : s.stage with
    | waiting =>
      simp only [after, hs]
      refine h.discard rfl rfl ?_ rfl (fun r hr => nomatch hr)
      rw [hs]
      rfl
    | draining d => simpa only [after, hs] using h
    | reported r =>
      simp only [after, hs]
      exact h.discard rfl rfl (by rw [hs]) rfl (fun q hq => hs.trans hq)
    | cancelled begun =>
      simp only [after, hs]
      exact h.discard rfl rfl (by rw [hs]) rfl (fun q hq => hs.trans hq)
    | discarded =>
      simp only [after, hs]
      exact h.discard rfl rfl (by rw [hs]) rfl (fun q hq => hs.trans hq)

/-- Every session keeps what `Sound` says, whatever happens and in whatever order. -/
theorem sound_play {terms : Terms} (h : s.Sound terms.request) (hs : List Happening) :
    (s.play terms hs).Sound terms.request := by
  induction hs generalizing s with
  | nil => exact h
  | cons happening hs ih => exact ih (sound_after h happening)

/-! ### Turns of a drain

A turn of a drain is a session: its steps, and at the end the giving up, if the drain is
given up. -/

theorem after_step (terms : Terms) (b : Bench) (d : Drain) (accepted : List Task)
    (now room : Nat) (watched : Bool) :
    ∃ more, (Session.mk b (.draining d) accepted).after terms (.step now room watched)
      = ⟨(Deferred.step terms now b { d with room, watched }).1,
          .ofTurn (Deferred.step terms now b { d with room, watched }).2, accepted ++ more⟩ :=
  ⟨_, rfl⟩

theorem exists_play_of_suspend {terms : Terms} {now : Nat} {w : Bool} {b c : Bench}
    {d : Drain} {turn ended : Turn} (accepted : List Task)
    (ht : Stage.ofTurn turn = .draining d) (h : suspend terms now w b d turn = (c, ended)) :
    ∃ hs, (Session.mk b (.draining d) accepted).play terms hs
      = ⟨c, .ofTurn ended, accepted⟩ := by
  unfold suspend at h
  split at h
  · obtain ⟨rfl, rfl⟩ := Prod.mk.inj h
    exact ⟨[.cancel], rfl⟩
  · obtain ⟨rfl, rfl⟩ := Prod.mk.inj h
    exact ⟨[], by rw [play_nil, ht]⟩

theorem exists_play_of_runBurst {terms : Terms} {now bound room : Nat} {w watched : Bool}
    {b c : Bench} {d : Drain} {ended : Turn} (accepted : List Task) (hb : bound ≠ 0)
    (h : runBurst terms now w bound b { d with room, watched } = (c, ended)) :
    ∃ hs more, (Session.mk b (.draining d) accepted).play terms hs
      = ⟨c, .ofTurn ended, accepted ++ more⟩ := by
  -- Every step of the burst is a step of the session. A burst may end in a cancellation.
  induction bound generalizing b d room watched accepted with
  | zero => exact absurd rfl hb
  | succ bound ih =>
    obtain ⟨more, hstep⟩ := after_step terms b d accepted now room watched
    have hthen : ∀ hs : List Happening, (Session.mk b (.draining d) accepted).play terms
        (.step now room watched :: hs) = _ := fun hs => by rw [play_cons, hstep]
    unfold runBurst at h
    split at h
    · next b₁ d₁ hs =>
      rw [hs] at hthen
      by_cases hz : bound = 0
      · subst hz
        obtain ⟨rfl, rfl⟩ := Prod.mk.inj h
        exact ⟨[.step now room watched], more, hthen []⟩
      · have hrest : runBurst terms now w bound b₁
            { d₁ with room := d₁.room, watched := d₁.watched } = (c, ended) := h
        obtain ⟨ks, others, hplay⟩ := ih (accepted ++ more) hz hrest
        refine ⟨.step now room watched :: ks, more ++ others, (hthen ks).trans ?_⟩
        rw [← List.append_assoc]
        exact hplay
    · next b₁ d₁ hs =>
      rw [hs] at hthen
      obtain ⟨ks, hplay⟩ := exists_play_of_suspend (accepted ++ more) rfl h
      exact ⟨.step now room watched :: ks, more, (hthen ks).trans hplay⟩
    · next b₁ time d₁ hs =>
      rw [hs] at hthen
      obtain ⟨ks, hplay⟩ := exists_play_of_suspend (accepted ++ more) rfl h
      exact ⟨.step now room watched :: ks, more, (hthen ks).trans hplay⟩
    · rw [h] at hthen
      exact ⟨[.step now room watched], more, hthen []⟩

/-- A drain that is under way in a session may be given its turn: that is more of the session. -/
theorem exists_play_of_burst (terms : Terms) (now room : Nat) {d : Drain}
    (hd : s.stage = .draining d) :
    ∃ hs, (s.play terms hs).bench = (burst terms now room s.bench d).1 ∧
      (s.play terms hs).stage = .ofTurn (burst terms now room s.bench d).2 := by
  obtain ⟨b, stage, accepted⟩ := s
  obtain rfl : stage = .draining d := hd
  obtain ⟨c, ended, hturn⟩ : ∃ c ended, burst terms now room b d = (c, ended) := ⟨_, _, rfl⟩
  obtain ⟨hs, more, hplay⟩ := exists_play_of_runBurst accepted (Nat.succ_ne_zero _) hturn
  refine ⟨hs, ?_⟩
  rw [hplay, hturn]
  exact ⟨rfl, rfl⟩

end Session
end EdgeRender.Deferred
