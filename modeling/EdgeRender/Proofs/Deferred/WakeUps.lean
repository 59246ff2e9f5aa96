import EdgeRender.Proofs.Deferred.Progress
import EdgeRender.Proofs.Deferred.Settling

/-! # No wake-up is lost

Any number of waiters are suspended on the pending work of a loop, each with a deadline of
its own, while work is taken on and off, time passes, and now and then one of them is
resumed. A waiter that has not been woken since it last looked waits for work that is still
pending. So whoever is resumed finds out whether work is pending, however often the count
has gone to zero and back in between. `exists_play_of_steps` says that whatever a loop does
to its pending work is covered.
-/
namespace EdgeRender.Deferred

/-- Somebody who has asked to wait until no work is pending. -/
inductive Seat where
  | suspended (w : Waiter)
  | answered (idle : Bool)
  deriving DecidableEq, Repr

def Seat.of : EventLoop.Look Bool Waiter → Seat
  | .over idle => .answered idle
  | .aside w | .waiting _ w => .suspended w

/-- How a wait begins. -/
def EventLoop.seat (l : EventLoop) (millis : Nat) : Seat :=
  if l.pending.isIdle then .answered true
  else .suspended ⟨l.now + millis, l.pending.wakeups⟩

/-- A wait of the loop goes on as it begins here. -/
theorem EventLoop.waitIdle_of_seat {l : EventLoop} {millis : Nat} {w : Waiter}
    (h : l.seat millis = .suspended w) : l.waitIdle millis =
      let (answer, m) := l.wait lookIdle w
      let idle := answer.getD false
      (idle, if idle then m else m.record [.alert (.waitTimedOut m.pending.count)]) := by
  unfold seat at h
  unfold waitIdle
  split at h
  · cases h
  · next hi =>
    obtain rfl := Seat.suspended.inj h
    rw [if_neg hi]

/-- A loop and all who have asked it to wait, in the order in which they asked. -/
structure Hall where
  loop : EventLoop
  seats : List Seat := []

inductive Occurrence where
  /-- Work is taken on. -/
  | acquire
  /-- So much work is taken off, or as much as there is. -/
  | release (n : Nat)
  /-- Time passes, and the loop changes in anything but the pending work. -/
  | pass (l : EventLoop)
  /-- Somebody asks to wait, at most so long. -/
  | arrive (millis : Nat)
  /-- A waiter is resumed, for whatever reason, with so much allowance. -/
  | resume (i credit : Nat)

namespace Hall

def after (h : Hall) : Occurrence → Hall
  | .acquire => { h with loop := h.loop.acquire }
  | .release n => { h with loop := h.loop.release n }
  | .pass l => { h with loop := { l with pending := h.loop.pending } }
  | .arrive millis => { h with seats := h.seats ++ [h.loop.seat millis] }
  | .resume i credit =>
    match h.seats[i]? with
    | some (.suspended w) =>
      let (look, loop) := EventLoop.lookIdle { h.loop with credit } w
      { loop, seats := h.seats.set i (.of look) }
    | _ => h

def play (h : Hall) (os : List Occurrence) : Hall :=
  os.foldl after h

end Hall

namespace Waiter

/-- A waiter that has seen every wake-up so far waits for work that is pending. -/
structure Awaits (p : Pending) (w : Waiter) : Prop where
  seen_le : w.seen ≤ p.wakeups
  pending : w.seen = p.wakeups → 0 < p.count

variable {p : Pending} {w : Waiter}

theorem Awaits.acquire (h : w.Awaits p) : w.Awaits p.acquire where
  seen_le := h.seen_le
  pending := fun _ => Nat.succ_pos _

/-- Work that is taken off leaves some, or everybody is woken. -/
theorem Awaits.release (h : w.Awaits p) (n : Nat) : w.Awaits (p.release n) := by
  have hle := p.wakeups_le_release n
  refine ⟨Nat.le_trans h.seen_le hle, fun heq => ?_⟩
  by_cases hn : n = 0
  · subst hn
    exact h.pending heq
  · refine Nat.pos_of_ne_zero fun hzero => ?_
    have hlt := Pending.wakeups_lt_release hn hzero
    have hseen := h.seen_le
    omega

theorem awaits_again (w : Waiter) (h : 0 < p.count) : (w.again p).Awaits p :=
  ⟨Nat.le_refl _, fun _ => h⟩

/-- A waiter that finds no work pending has been woken. -/
theorem Awaits.isServed_iff (h : w.Awaits p) : w.isServed p = true ↔ p.count = 0 := by
  unfold isServed
  rw [Bool.and_eq_true, decide_eq_true_iff, Pending.isIdle_iff]
  constructor
  · exact And.right
  · intro hzero
    refine ⟨?_, hzero⟩
    have hseen := h.seen_le
    have hpending := h.pending
    omega

end Waiter

namespace EventLoop

variable {l : EventLoop} {w : Waiter}

/-- A waiter that is resumed when no work is pending is told so, whatever the time is. -/
theorem lookIdle_of_count_eq_zero (h : w.Awaits l.pending) (hz : l.pending.count = 0) :
    l.lookIdle w = (.over true, l) := by
  unfold lookIdle
  rw [if_pos (h.isServed_iff.mpr hz)]

/-- A waiter that is resumed while work is pending waits on, having seen every wake-up, or
is told so if its deadline has come. -/
theorem lookIdle_of_count_pos (h : w.Awaits l.pending) (hp : 0 < l.pending.count) :
    (l.credit ≠ 0 ∧ w.deadline ≤ l.now ∧ l.lookIdle w = l.close false) ∨
      ((l.credit = 0 ∨ l.now < w.deadline) ∧
        ∃ look, l.lookIdle w = (look, l) ∧ Seat.of look = .suspended (w.again l.pending)) := by
  have hserved : ¬ w.isServed l.pending = true := fun hs => by
    have hzero := h.isServed_iff.mp hs
    omega
  unfold lookIdle
  rw [if_neg hserved]
  by_cases hc : l.credit = 0
  · rw [if_pos hc]
    exact .inr ⟨.inl hc, _, rfl, rfl⟩
  · rw [if_neg hc]
    by_cases hd : w.deadline ≤ l.now
    · rw [if_pos hd]
      have hidle : l.pending.isIdle = false := by
        rw [Bool.eq_false_iff, ne_eq, Pending.isIdle_iff]
        omega
      rw [hidle]
      exact .inl ⟨hc, hd, rfl⟩
    · rw [if_neg hd]
      exact .inr ⟨.inr (Nat.lt_of_not_le hd), _, rfl, rfl⟩

/-- Looking changes no pending work, and no time passes. -/
theorem lookIdle_keeps (l : EventLoop) (w : Waiter) :
    (l.lookIdle w).2.pending = l.pending ∧ (l.lookIdle w).2.now = l.now := by
  unfold lookIdle
  split
  · exact ⟨rfl, rfl⟩
  · split
    · exact ⟨rfl, rfl⟩
    · split <;> exact ⟨rfl, rfl⟩

theorem seat_eq (l : EventLoop) (millis : Nat) :
    (l.pending.count = 0 ∧ l.seat millis = .answered true) ∨
      (0 < l.pending.count ∧
        l.seat millis = .suspended ⟨l.now + millis, l.pending.wakeups⟩) := by
  unfold seat
  split
  · next hi => exact .inl ⟨Pending.isIdle_iff.mp hi, rfl⟩
  · next hi => exact .inr ⟨Nat.pos_of_ne_zero fun hz => hi (Pending.isIdle_iff.mpr hz), rfl⟩

end EventLoop

namespace Hall

variable {h : Hall} {o : Occurrence} {i : Nat} {w : Waiter}

/-- No suspended waiter has missed a wake-up. -/
def Sound (h : Hall) : Prop :=
  ∀ (i : Nat) (w : Waiter), h.seats[i]? = some (.suspended w) → w.Awaits h.loop.pending

/-- How a waiter goes on that is resumed: it is told that no work is pending exactly if that
is so, and otherwise it is told that work is pending, if its deadline has come, or it waits
on for the same deadline. -/
inductive Resumed (l : EventLoop) (credit : Nat) (w : Waiter) : Seat → Prop
  | idle (hz : l.pending.count = 0) : Resumed l credit w (.answered true)
  | late (hp : 0 < l.pending.count) (hc : credit ≠ 0) (hd : w.deadline ≤ l.now) :
      Resumed l credit w (.answered false)
  | again (hp : 0 < l.pending.count) (ht : credit = 0 ∨ l.now < w.deadline) :
      Resumed l credit w (.suspended (w.again l.pending))

/-- A resumed waiter changes its own seat only, and no pending work. -/
theorem resumed_after (hs : h.Sound) (hi : h.seats[i]? = some (.suspended w)) (credit : Nat) :
    ∃ seat, (h.after (.resume i credit)).seats = h.seats.set i seat ∧
      (h.after (.resume i credit)).loop.pending = h.loop.pending ∧
      Resumed h.loop credit w seat := by
  have hw : w.Awaits ({ h.loop with credit } : EventLoop).pending := hs i w hi
  have hafter : h.after (.resume i credit)
      = { loop := (EventLoop.lookIdle { h.loop with credit } w).2,
          seats := h.seats.set i (.of (EventLoop.lookIdle { h.loop with credit } w).1) } := by
    simp only [after, hi]
  have hkept := (EventLoop.lookIdle_keeps { h.loop with credit } w).1
  refine ⟨.of (EventLoop.lookIdle { h.loop with credit } w).1, by rw [hafter],
    by rw [hafter]; exact hkept, ?_⟩
  rcases Nat.eq_zero_or_pos h.loop.pending.count with hz | hp
  · rw [EventLoop.lookIdle_of_count_eq_zero hw hz]
    exact .idle hz
  · rcases EventLoop.lookIdle_of_count_pos hw hp with ⟨hc, hd, hl⟩ | ⟨ht, look, hl, hseat⟩
    · rw [hl]
      exact .late hp hc hd
    · rw [hl, hseat]
      exact .again hp ht

theorem sound_after (hs : h.Sound) (o : Occurrence) : (h.after o).Sound := by
  -- Only who arrives or is resumed looks at the count; all others are as they were.
  cases o with
  | acquire => exact fun i w hi => (hs i w hi).acquire
  | release n => exact fun i w hi => (hs i w hi).release n
  | pass l => exact fun i w hi => hs i w hi
  | arrive millis =>
    intro i w hi
    have hnew : (h.seats ++ [h.loop.seat millis])[i]? = some (.suspended w) := hi
    by_cases hlt : i < h.seats.length
    · rw [List.getElem?_append_left hlt] at hnew
      exact hs i w hnew
    · rw [List.getElem?_append_right (Nat.le_of_not_lt hlt)] at hnew
      have hseat := List.mem_singleton.mp (List.mem_of_getElem? hnew)
      rcases h.loop.seat_eq millis with ⟨-, ha⟩ | ⟨hp, ha⟩
      · rw [ha] at hseat
        cases hseat
      · rw [ha] at hseat
        obtain rfl := Seat.suspended.inj hseat
        exact ⟨Nat.le_refl _, fun _ => hp⟩
  | resume j credit =>
    cases hj : h.seats[j]? with
    | none => simpa only [after, hj] using hs
    | some seat =>
      cases seat with
      | answered idle => simpa only [after, hj] using hs
      | suspended v =>
        obtain ⟨seat, hseats, hpending, hres⟩ := resumed_after hs hj credit
        intro i w hi
        rw [hseats] at hi
        rw [hpending]
        by_cases hij : j = i
        · subst hij
          rw [List.getElem?_set_self (List.getElem?_eq_some_iff.mp hj).1] at hi
          obtain rfl := Option.some.inj hi
          cases hres with
          | again hp ht => exact Waiter.awaits_again v hp
        · rw [List.getElem?_set_ne hij] at hi
          exact hs i w hi

/-- Whatever happens, no suspended waiter misses a wake-up. -/
theorem sound_play (hs : h.Sound) (os : List Occurrence) : (h.play os).Sound := by
  induction os generalizing h with
  | nil => exact hs
  | cons o os ih => exact ih (sound_after hs o)

/-! ### Whatever a loop does is covered -/

theorem play_append (h : Hall) (os ps : List Occurrence) :
    h.play (os ++ ps) = (h.play os).play ps :=
  List.foldl_append

/-- Work is taken on so many times, and then taken off in these amounts. -/
def changes (on : Nat) (off : List Nat) : List Occurrence :=
  List.replicate on .acquire ++ off.map .release

theorem play_changes (h : Hall) (on : Nat) (off : List Nat) :
    h.play (changes on off) = { h with
      loop := { h.loop with
        pending := off.foldl Pending.release (Pending.acquire^[on] h.loop.pending) } } := by
  rw [changes, play_append]
  have hon : h.play (List.replicate on .acquire)
      = { h with loop := { h.loop with pending := Pending.acquire^[on] h.loop.pending } } := by
    induction on generalizing h with
    | zero => rfl
    | succ on ih => exact ih (h.after .acquire)
  rw [hon]
  generalize Pending.acquire^[on] h.loop.pending = p
  induction off generalizing p with
  | nil => rfl
  | cons n off ih => exact ih (p.release n)

theorem exists_play_of_pending {l m : EventLoop} (seats : List Seat) (on : Nat) (off : List Nat)
    (hp : m.pending = off.foldl Pending.release (Pending.acquire^[on] l.pending)) :
    ∃ os, (Hall.mk l seats).play os = ⟨m, seats⟩ := by
  refine ⟨changes on off ++ [.pass m], ?_⟩
  rw [play_append, play_changes, ← hp]
  rfl

open EventLoop in
/-- Whatever a loop does to its pending work is that some is taken on, and then some off. -/
theorem exists_play_of_stepped {l m : EventLoop} (seats : List Seat) (hm : Stepped l m) :
    ∃ os, (Hall.mk l seats).play os = ⟨m, seats⟩ := by
  cases hm with
  | @stepped k d s now room watched hj hs =>
    obtain ⟨b, turn, events₁, events₂, job, hstep, hl⟩ :=
      l.exists_stepDrain k d s now room watched
    rw [hl]
    exact exists_play_of_pending seats _ _ (Session.pending_of_advances hstep.advances)
  | @cancelled k d hj =>
    exact exists_play_of_pending seats 0 [d.drain.inFlight, (l.queue d.request).tasks.length]
      rfl
  | @timed k hj =>
    have hnone : ∃ os, (Hall.mk l seats).play os = ⟨l, seats⟩ := ⟨[], rfl⟩
    unfold runJob
    cases hk : l.jobs[k]? with
    | none => exact hnone
    | some job =>
      cases job with
      | drain d => exact absurd hk (hj d)
      | acquire due =>
        dsimp only
        split
        · exact exists_play_of_pending seats 1 [] rfl
        · exact hnone
      | release due n =>
        dsimp only
        split
        · exact exists_play_of_pending seats 0 [n] rfl
        · exact hnone
      | _ => exact hnone
  | _ => exact exists_play_of_pending seats 0 [] rfl

open EventLoop Relation in
theorem exists_play_of_steps {l m : EventLoop} (seats : List Seat)
    (hm : ReflTransGen Stepped l m) : ∃ os, (Hall.mk l seats).play os = ⟨m, seats⟩ := by
  induction hm with
  | refl => exact ⟨[], rfl⟩
  | tail _ hm ih =>
    obtain ⟨os, hos⟩ := ih
    obtain ⟨ps, hps⟩ := exists_play_of_stepped seats hm
    exact ⟨os ++ ps, by rw [play_append, hos, hps]⟩

/-! ### What is behind an answer -/

/-- What is behind the answer of a waiter, and behind its being suspended. -/
inductive Behind (h : Hall) (o : Occurrence) (i : Nat) : Seat → Prop
  /-- It had this answer before. -/
  | before {idle : Bool} (hi : h.seats[i]? = some (.answered idle)) : Behind h o i (.answered idle)
  /-- It asks, or is resumed, when no work is pending. -/
  | idle (hz : h.loop.pending.count = 0) : Behind h o i (.answered true)
  /-- It is resumed after its deadline, while work is pending. -/
  | late {w : Waiter} (hi : h.seats[i]? = some (.suspended w)) (hd : w.deadline ≤ h.loop.now)
      (hp : 0 < h.loop.pending.count) : Behind h o i (.answered false)
  /-- It asks while work is pending. -/
  | arrives {millis : Nat} (ho : o = .arrive millis) (hp : 0 < h.loop.pending.count) :
      Behind h o i (.suspended ⟨h.loop.now + millis, h.loop.pending.wakeups⟩)
  /-- It was suspended before, with the same deadline. -/
  | stays {v w : Waiter} (hi : h.seats[i]? = some (.suspended v)) (hd : w.deadline = v.deadline) :
      Behind h o i (.suspended w)

theorem behind_of_eq {seat : Seat} (hi : h.seats[i]? = some seat) : Behind h o i seat := by
  cases seat with
  | suspended w => exact .stays hi rfl
  | answered idle => exact .before hi

theorem Resumed.behind {credit : Nat} {seat : Seat}
    (hr : Resumed h.loop credit w seat) (hi : h.seats[i]? = some (.suspended w)) :
    Behind h o i seat := by
  cases hr with
  | idle hz => exact .idle hz
  | late hp hc hd => exact .late hi hd hp
  | again hp ht => exact .stays hi rfl

/-- Nothing else is behind an answer or a wait. -/
theorem behind_after (hs : h.Sound) (o : Occurrence) {i : Nat} {seat : Seat}
    (hi : (h.after o).seats[i]? = some seat) : Behind h o i seat := by
  -- An answer that is there already stays. A new one is given on arrival or when resumed.
  cases o with
  | acquire | release | pass => exact behind_of_eq hi
  | arrive millis =>
    have hnew : (h.seats ++ [h.loop.seat millis])[i]? = some seat := hi
    by_cases hlt : i < h.seats.length
    · rw [List.getElem?_append_left hlt] at hnew
      exact behind_of_eq hnew
    · rw [List.getElem?_append_right (Nat.le_of_not_lt hlt)] at hnew
      have hseat := List.mem_singleton.mp (List.mem_of_getElem? hnew)
      rcases h.loop.seat_eq millis with ⟨hz, ha⟩ | ⟨hp, ha⟩
      · rw [hseat, ha]
        exact .idle hz
      · rw [hseat, ha]
        exact .arrives rfl hp
  | resume j credit =>
    cases hj : h.seats[j]? with
    | none =>
      simp only [after, hj] at hi
      exact behind_of_eq hi
    | some old =>
      cases old with
      | answered idle =>
        simp only [after, hj] at hi
        exact behind_of_eq hi
      | suspended v =>
        obtain ⟨new, hseats, -, hres⟩ := resumed_after hs hj credit
        rw [hseats] at hi
        by_cases hij : j = i
        · subst hij
          rw [List.getElem?_set_self (List.getElem?_eq_some_iff.mp hj).1] at hi
          obtain rfl := Option.some.inj hi
          exact hres.behind hj
        · rw [List.getElem?_set_ne hij] at hi
          exact behind_of_eq hi

end Hall

namespace EventLoop

variable {l m : EventLoop}

/-- Whoever waits until no work is pending waits for the deadline at the latest. -/
theorem patient_lookIdle : Patient lookIdle Waiter.deadline where
  aside := by
    intro l m w w' h
    unfold lookIdle at h
    split at h
    · cases h
    · split at h
      · next hc =>
        obtain ⟨hw, rfl⟩ := Prod.mk.inj h
        obtain rfl := Look.aside.inj hw
        exact ⟨hc, rfl, rfl⟩
      · split at h <;> cases h
  waiting := by
    intro l m w w' time h
    unfold lookIdle at h
    split at h
    · cases h
    · split at h
      · cases h
      · next hc =>
        split at h
        · cases h
        · next hd =>
          obtain ⟨hw, rfl⟩ := Prod.mk.inj h
          obtain ⟨rfl, rfl⟩ := Look.waiting.inj hw
          exact ⟨hc, Nat.lt_of_not_le hd, rfl, rfl, rfl⟩

/-- Whoever is told that work is pending has looked after the deadline. -/
theorem late_of_lookIdle {w : Waiter} (h : l.lookIdle w = (.over false, m)) :
    w.deadline ≤ m.now ∧ 0 < m.pending.count := by
  unfold lookIdle at h
  split at h
  · cases h
  · split at h
    · cases h
    · split at h
      · next hd =>
        obtain ⟨hover, rfl⟩ := Prod.mk.inj h
        have hidle : l.pending.isIdle = false := Look.over.inj hover
        refine ⟨hd, Nat.pos_of_ne_zero fun hz => ?_⟩
        rw [Pending.isIdle_iff.mpr hz] at hidle
        cases hidle
      · cases h

/-- What a wait on an orderly loop answers: that no work is pending, and that is so, or that
work is pending, and that is so, and the deadline has come. -/
theorem waitIdle_of_orderly (h : l.Orderly) {millis : Nat} {idle : Bool}
    (hw : l.waitIdle millis = (idle, m)) :
    (idle = true → m.pending.count = 0) ∧
      (idle = false → l.now + millis ≤ m.now ∧ 0 < m.pending.count) := by
  rcases l.seat_eq millis with ⟨hz, -⟩ | ⟨-, hseat⟩
  · have hidle := Pending.isIdle_iff.mpr hz
    unfold waitIdle at hw
    rw [if_pos hidle] at hw
    obtain ⟨rfl, rfl⟩ := Prod.mk.inj hw
    exact ⟨fun _ => hz, nofun⟩
  · rw [waitIdle_of_seat hseat] at hw
    obtain ⟨answer, l', w, hanswer, hlook, hdue⟩ := patient_lookIdle.answers_of_wait h
      ⟨l.now + millis, l.pending.wakeups⟩
    obtain ⟨a, m', hwait⟩ : ∃ a m', l.wait lookIdle
        ⟨l.now + millis, l.pending.wakeups⟩ = (a, m') := ⟨_, _, rfl⟩
    rw [hwait] at hw hanswer hlook
    obtain rfl : a = some answer := hanswer
    obtain ⟨rfl, hm⟩ := Prod.mk.inj hw
    constructor
    · rintro rfl
      obtain rfl : m' = m := hm
      exact Pending.isIdle_iff.mp (isIdle_of_lookIdle hlook)
    · rintro rfl
      obtain rfl : m'.record _ = m := hm
      obtain ⟨hlate, hpending⟩ := late_of_lookIdle hlook
      rw [hdue] at hlate
      exact ⟨hlate, hpending⟩

end EventLoop
end EdgeRender.Deferred
