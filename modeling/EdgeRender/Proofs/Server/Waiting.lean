import EdgeRender.Proofs.Deferred.WakeUps
import EdgeRender.Proofs.Server.Pending

/-! # Waiting until no work is pending

Whatever is done with a server, its loop stays orderly, so that every wait on it is
answered. What is answered is true: no work is pending, or some is and the deadline has
come.
-/
namespace EdgeRender

open EdgeRender.Deferred EdgeRender.Fetch EdgeRender.Stream EdgeRender.Log Relation

namespace Server

variable {σ : Type} {srv : Server σ} {k : Nat}

theorem orderly_record (h : srv.loop.Orderly) (events : List Event) :
    (srv.record events).loop.Orderly :=
  h.of_eq rfl rfl

theorem orderly_notify (h : srv.loop.Orderly) (k : Nat) (phase : Phase) :
    (srv.notify k phase).loop.Orderly := by
  rw [notify_eq]
  exact orderly_record h _

theorem orderly_begin (h : srv.loop.Orderly) (context : RequestContext) (channel : Channel) :
    (srv.begin context channel).2.loop.Orderly := by
  obtain ⟨s, r, -, -, -, -, he⟩ := srv.begin_eq context channel
  rw [he]
  exact h.of_eq rfl rfl

theorem orderly_close (h : srv.loop.Orderly) (r : RenderRequest) :
    (srv.close r).2.loop.Orderly :=
  h.of_eq rfl rfl

theorem orderly_complete (h : srv.loop.Orderly) (r : RenderRequest) :
    (srv.complete r).2.loop.Orderly := by
  obtain ⟨answer, sink, hf⟩ : ∃ answer sink, r.sink.finish = (answer, sink) := ⟨_, _, rfl⟩
  cases answer with
  | error fault =>
    have hc := orderly_close h { r with sink }
    unfold complete
    rw [hf]
    exact orderly_notify (orderly_record hc _) r.number .aborted
  | ok receipt =>
    obtain ⟨lines, hc⟩ := srv.complete_eq hf
    have hrecord := orderly_record h (lines.map .line ++ told srv.observed r.number .flushed)
    rw [hc]
    exact hrecord.startDrain r.number _ ""

theorem orderly_fetch (h : srv.loop.Orderly) (r : RenderRequest) (input : Input) :
    (srv.fetch r input).2.loop.Orderly := by
  unfold fetch
  rcases r.client.fetch srv.fetcher input srv.fetches with ⟨answer, events, client, fetches⟩
  exact h.of_eq rfl rfl

theorem orderly_fetchJson (h : srv.loop.Orderly) (r : RenderRequest) (input : Input) :
    (srv.fetchJson r input).2.loop.Orderly := by
  unfold fetchJson
  rcases r.client.fetchJson srv.fetcher input srv.fetches with ⟨answer, events, client, fetches⟩
  exact h.of_eq rfl rfl

theorem orderly_prepare (h : srv.loop.Orderly) (r : RenderRequest) (input : Input) :
    (srv.prepare r input).2.loop.Orderly := by
  unfold prepare
  rcases r.client.prepare input with ⟨answer, events, client⟩
  exact h.of_eq rfl rfl

theorem orderly_whileDrained {act : RenderRequest → Nat → Answer × Server σ}
    (h : srv.loop.Orderly) (hact : ∀ r job, (act r job).2.loop.Orderly) :
    (srv.whileDrained k act).2.loop.Orderly := by
  unfold whileDrained
  split
  · split
    · exact hact _ _
    · exact h
  · exact h

/-- An action on a request leaves the loop orderly. -/
theorem orderly_actOn (h : srv.loop.Orderly) (k : Nat) (action : RequestAction) :
    (srv.actOn k action).2.loop.Orderly := by
  have hopen : ∀ act : RenderRequest → Answer × Server σ,
      (∀ r, (act r).2.loop.Orderly) → (srv.whileOpen k act).2.loop.Orderly :=
    fun _ hact => holds_whileOpen (P := fun srv => srv.loop.Orderly) h fun r _ => hact r
  have hsink : ∀ act : RenderRequest → Answer × Server σ,
      (∀ r, (act r).2.loop.Orderly) → (srv.onSink k act).2.loop.Orderly :=
    fun _ hact => holds_onSink (P := fun srv => srv.loop.Orderly) h fun r _ => hact r
  have hmap : ∀ {α : Type} (p : α × Server σ) (answer : α → Answer),
      p.2.loop.Orderly → (p.map answer id).2.loop.Orderly := fun _ _ hp => hp
  cases action with
  | after task => exact hopen _ fun _ => h.of_eq rfl rfl
  | register task => exact hsink _ fun _ => h.of_eq rfl rfl
  | prepare input => exact hopen _ fun r => hmap _ _ (orderly_prepare h r input)
  | fetch input => exact hopen _ fun r => hmap _ _ (orderly_fetch h r input)
  | fetchJson input => exact hopen _ fun r => hmap _ _ (orderly_fetchJson h r input)
  | log level message fields => exact hopen _ fun _ => h.of_eq rfl rfl
  | send chunk => exact hsink _ fun _ => h
  | finishSink => exact hsink _ fun _ => h
  | dropReceiver => exact hsink _ fun _ => h
  | complete => exact hopen _ fun r => hmap _ _ (orderly_complete h r)
  | abort =>
    exact hopen _ fun r => orderly_notify (orderly_record (orderly_close h r) _) r.number .aborted
  | drop => exact hopen _ fun r => orderly_close h r
  | hold millis =>
    exact orderly_whileDrained h fun _ _ => EventLoop.orderly_holdTermination h _ millis
  | join => exact orderly_whileDrained h fun _ job => EventLoop.orderly_join h job

/-- Whatever is done with a server, its loop stays orderly. -/
theorem orderly_run (h : srv.loop.Orderly) (actions : List Action) :
    (srv.run actions).2.loop.Orderly := by
  induction actions generalizing srv with
  | nil => exact h
  | cons a actions ih =>
    have hact : (srv.act a).2.loop.Orderly := by
      cases a with
      | begin context channel => exact orderly_begin h context channel
      | request k action => exact orderly_actOn h k action
      | shutdown millis => exact EventLoop.orderly_waitIdle h millis
      | sleep millis => exact EventLoop.orderly_sleep h millis
    exact ih hact

/-- No wake-up is lost. Let any number of waiters be suspended in any hall that was empty,
with any count to begin with, while work is taken on and off, time passes and waiters are
resumed in any order. A suspended waiter that has not been woken since it last looked waits
for work that is pending. When it is resumed, it is told that no work is pending exactly if
none is, whatever the time is and however often that had been so before; otherwise it is
told that work is pending, if its deadline has come, or waits on for the same deadline. No
answer comes about in another way, and nothing that a loop does to its pending work is left
out. And whatever has been done with a server, a wait on its loop is answered: that no work
is pending, if that is so, or that work is pending, if that is so and the deadline has
come. -/
theorem wakeUps_of_run (h : srv.loop.Orderly) (actions : List Action) :
    (∀ h₀ : Hall, h₀.seats = [] → ∀ os,
      let hall := h₀.play os
      let p := hall.loop.pending
      (∀ i w, hall.seats[i]? = some (.suspended w) →
        (w.seen = p.wakeups → 0 < p.count) ∧
          ∀ credit, ∃ seat, (hall.after (.resume i credit)).seats = hall.seats.set i seat ∧
            Hall.Resumed hall.loop credit w seat ∧ (p.count = 0 → seat = .answered true)) ∧
      ∀ o i seat, (hall.after o).seats[i]? = some seat → Hall.Behind hall o i seat) ∧
    (∀ l m seats, ReflTransGen EventLoop.Stepped l m →
      ∃ os, (Hall.mk l seats).play os = ⟨m, seats⟩) ∧
    let l := (srv.run actions).2.loop
    ∀ millis idle m, l.waitIdle millis = (idle, m) →
      (idle = true → m.pending.count = 0) ∧
        (idle = false → l.now + millis ≤ m.now ∧ 0 < m.pending.count) := by
  refine ⟨?_, fun l m seats => Hall.exists_play_of_steps seats, ?_⟩
  · intro h₀ hempty os hall p
    have hnew : h₀.Sound := by
      intro i w hi
      rw [hempty] at hi
      cases hi
    have hsound : hall.Sound := Hall.sound_play hnew os
    refine ⟨fun i w hi => ⟨(hsound i w hi).pending, fun credit => ?_⟩, ?_⟩
    · obtain ⟨seat, hseats, -, hres⟩ := Hall.resumed_after hsound hi credit
      refine ⟨seat, hseats, hres, fun hz => ?_⟩
      cases hres with
      | idle => rfl
      | late hp | again hp => exact absurd hz (Nat.ne_of_gt hp)
    · exact fun o i seat => Hall.behind_after hsound o
  · intro l millis idle m hw
    exact EventLoop.waitIdle_of_orderly (orderly_run h actions) hw

/-- Two wait for two pieces of work. More is taken off than there is, something is taken on
again, and one of them looks in vain; then the rest is taken off, twice, and time passes far
beyond the deadlines. -/
def vainWakeUp : List Occurrence :=
  [.acquire, .acquire, .arrive 10, .arrive 0, .release 5, .acquire, .resume 0 allowance,
    .release 1, .acquire, .release 1, .pass { now := 99 }]

/-- Both are told that no work is pending. And while the tasks of a request run, somebody who
waits for a short time is told that they are pending, and somebody who waits longer that they
are not. -/
theorem wakeUps_vainWakeUp :
    let hall := Hall.play ⟨{}, []⟩ vainWakeUp
    let l := (run (canned {}) twoRequests).2.loop
    hall.seats = [.suspended ⟨10, 1⟩, .suspended ⟨0, 0⟩] ∧
      (∃ seat, (hall.after (.resume 0 0)).seats = hall.seats.set 0 seat ∧
        seat = .answered true) ∧
      (∃ seat, (hall.after (.resume 1 allowance)).seats = hall.seats.set 1 seat ∧
        seat = .answered true) ∧
      (l.waitIdle 5).1 = false ∧ l.now + 5 ≤ (l.waitIdle 5).2.now ∧
      (l.waitIdle 500).1 = true ∧ (l.waitIdle 500).2.pending.count = 0 := by
  intro hall l
  have hnew : (canned {}).loop.Orderly := EventLoop.orderly_new
  obtain ⟨hhall, -, hwait⟩ := wakeUps_of_run hnew twoRequests
  obtain ⟨hresume, -⟩ := hhall ⟨{}, []⟩ rfl vainWakeUp
  have hshort : (l.waitIdle 5).1 = false := by decide +kernel
  have hlong : (l.waitIdle 500).1 = true := by decide +kernel
  have hcount : hall.loop.pending.count = 0 := by decide
  refine ⟨by decide, ?_, ?_, hshort, ?_, hlong, ?_⟩
  · obtain ⟨seat, hseats, -, htold⟩ := (hresume 0 _ rfl).2 0
    exact ⟨seat, hseats, htold hcount⟩
  · obtain ⟨seat, hseats, -, htold⟩ := (hresume 1 _ rfl).2 allowance
    exact ⟨seat, hseats, htold hcount⟩
  · exact ((hwait 5 false _ (Prod.ext hshort rfl)).2 rfl).1
  · exact (hwait 500 true _ (Prod.ext hlong rfl)).1 rfl

end Server
end EdgeRender
