import EdgeRender.Deferred.Drain

/-! # The course of tasks

What a drain should come to, told without queue, clock or event loop. The course of one task
follows from its program, the time limit and the room that is left in the turn; the tour of
a forest takes up its tasks breadth first, those that a task has registered after all that
were registered before.

The room matters only to tasks that have no time at all: with any other time limit the course of
a task is the same in whatever turn it is taken up.
-/
namespace EdgeRender.Deferred

/-- How a task stands while it runs: the time it has left, the room left in the turn, and
whether its time limit is looked at in this turn. -/
structure Pace where
  left : Nat
  room : Nat
  watched : Bool
  deriving DecidableEq, Repr

namespace Pace

/-- Step aside until the next turn, which begins with all the room. A task without time ends
here instead; what is returned then is the room it leaves. -/
def pause (p : Pace) : Except Nat Pace :=
  if p.watched && p.left = 0 then .error (p.room - 1) else .ok ⟨p.left, allowance, true⟩

/-- Sleep in this turn. A sleep that ends exactly with the time is still in time. -/
def doze (p : Pace) (millis : Nat) : Except Nat Pace :=
  if millis = 0 then .ok { p with room := p.room - 1 }
  else if p.left = 0 then .error (p.room - 1)
  else if millis ≤ p.left then .ok ⟨p.left - millis, allowance - 1, true⟩
  else .error (allowance - 1)

/-- Sleep, in the next turn if there is no room in this one. -/
def sleep (p : Pace) (millis : Nat) : Except Nat Pace :=
  if p.room = 0 then p.pause.bind (·.doze millis) else p.doze millis

end Pace

/-- What a task does from some point on: the effects that it carries out, in order, its
failure, if it fails, and the room that it leaves. -/
structure Course where
  effects : List (Effect Task) := []
  failure : Option Failure := none
  room : Nat
  deriving Repr

namespace Course

def after (e : Effect Task) (c : Course) : Course :=
  { c with effects := e :: c.effects }

def registered (c : Course) : List Task :=
  c.effects.filterMap fun
    | .register task => some task
    | .note _ | .observe | .panic _ => none

/-- The same is done, and it ends in the same way. -/
def Same (c c' : Course) : Prop :=
  c'.effects = c.effects ∧ c'.failure = c.failure

end Course

/-- The end of a task that is out of time. -/
def Course.late (limit : Duration) (room : Nat) : Course :=
  { failure := some (.timedOut limit), room }

/-- The course of a task that waits: the rest of it, unless it is out of time. -/
def Course.awaited (limit : Duration) (rest : Pace → Course) : Except Nat Pace → Course
  | .error room => .late limit room
  | .ok p => rest p

/-- What an effect does to the course that follows it: a panic takes its place. -/
def Course.following (e : Effect Task) (room : Nat) (c : Course) : Course :=
  match e with
  | .panic payload => { failure := some (.panicked payload.message), room }
  | .note _ | .observe | .register _ => c.after e

def bodyCourse (limit : Duration) (p : Pace) : List (Step Task) → Course
  | [] => { room := p.room }
  | .effect e :: rest => .following e p.room (bodyCourse limit p rest)
  | .fail chain :: _ => { failure := some (.failed chain), room := p.room }
  | .yield :: rest => .awaited limit (bodyCourse limit · rest) p.pause
  | .sleep millis :: rest => .awaited limit (bodyCourse limit · rest) (p.sleep millis)

/-- A sleep for which there is no room is begun again in the next turn. -/
theorem awaited_pause_sleep (limit : Duration) (p : Pace) (millis : Nat)
    (rest : List (Step Task)) :
    Course.awaited limit (bodyCourse limit · (.sleep millis :: rest)) p.pause
      = .awaited limit (bodyCourse limit · rest) (p.pause.bind (·.doze millis)) := by
  unfold Pace.pause
  split
  · rfl
  · have hroom : ¬ (Pace.mk p.left allowance true).room = 0 := (by decide : ¬ allowance = 0)
    show Course.awaited limit _ (Pace.sleep _ millis) = _
    rw [Pace.sleep, if_neg hroom]
    rfl

/-- The milliseconds that a task has: the least number that makes up its time limit. -/
def allottedMillis (limit : Duration) : Nat :=
  (limit.seconds.toNat * 1000000000 + limit.nanos + 999999) / 1000000

theorem begunMillis_eq (limit : Duration) : limit.begunMillis = allottedMillis limit := by
  unfold Duration.begunMillis Duration.perMilli allottedMillis
  omega

/-- Only who has no time at all has no millisecond. -/
theorem allottedMillis_eq_zero_iff {limit : Duration} :
    allottedMillis limit = 0 ↔ limit = .ofMillis 0 := by
  constructor
  · intro h
    obtain ⟨seconds, nanos, hnanos⟩ := limit
    simp only [allottedMillis] at h
    have hseconds : seconds = 0 := UInt64.toNat_inj.mp (by simp; omega)
    have hnone : nanos = 0 := by omega
    subst hseconds hnone
    rfl
  · rintro rfl
    rfl

/-- The course of a task in its setup. Its time begins when the setup is done. -/
def setupCourse (limit : Duration) (room : Nat) (body : List (Step Task)) :
    List (Effect Task) → Course
  | [] => bodyCourse limit ⟨allottedMillis limit, room, room != 0⟩ body
  | e :: rest => .following e room (setupCourse limit room body rest)

/-- The course of a task that is taken up in a turn with so much room. -/
def Task.course (t : Task) (limit : Duration) (room : Nat) : Course :=
  setupCourse limit room t.body t.setup

/-! ## The room does not matter to those who have time -/

/-- Two stand alike unless they have time; then the turn does not matter. -/
structure Pace.Alike (p q : Pace) : Prop where
  left : q.left = p.left
  same : p.left = 0 → q = p

/-- Two that wait alike: both run out of time, or they stand alike afterwards. -/
inductive Pace.Waits : Except Nat Pace → Except Nat Pace → Prop
  | late (room room' : Nat) : Waits (.error room) (.error room')
  | on {p q : Pace} (h : p.Alike q) : Waits (.ok p) (.ok q)

namespace Pace

variable {p q : Pace}

theorem Alike.refl (p : Pace) : p.Alike p :=
  ⟨rfl, fun _ => rfl⟩

theorem Waits.refl (r : Except Nat Pace) : Waits r r := by
  cases r with
  | error room => exact .late room room
  | ok p => exact .on (.refl p)

theorem Alike.pause (h : p.Alike q) : Waits p.pause q.pause := by
  by_cases hz : p.left = 0
  · rw [h.same hz]
    exact .refl _
  · have hz' : q.left ≠ 0 := h.left ▸ hz
    simp only [Pace.pause, hz, hz', decide_false, Bool.and_false, Bool.false_eq_true, if_false]
    rw [h.left]
    exact .refl _

theorem Alike.doze (h : p.Alike q) (millis : Nat) : Waits (p.doze millis) (q.doze millis) := by
  by_cases hz : p.left = 0
  · rw [h.same hz]
    exact .refl _
  · have hz' : q.left ≠ 0 := h.left ▸ hz
    unfold Pace.doze
    rw [h.left]
    split
    · exact .on ⟨rfl, fun hleft => absurd hleft hz⟩
    · exact .refl _

/-- Whoever has time sleeps in this turn or in the next one. -/
theorem exists_doze (h : p.left ≠ 0) (millis : Nat) :
    ∃ p' : Pace, p.sleep millis = p'.doze millis ∧ p'.left = p.left := by
  unfold Pace.sleep
  split
  · refine ⟨⟨p.left, allowance, true⟩, ?_, rfl⟩
    have hfull : p.pause = .ok ⟨p.left, allowance, true⟩ := by simp [Pace.pause, h]
    rw [hfull]
    rfl
  · exact ⟨p, rfl, rfl⟩

theorem Alike.sleep (h : p.Alike q) (millis : Nat) :
    Waits (p.sleep millis) (q.sleep millis) := by
  by_cases hz : p.left = 0
  · rw [h.same hz]
    exact .refl _
  · obtain ⟨p', hp, hleft⟩ := exists_doze hz millis
    obtain ⟨q', hq, hleft'⟩ := exists_doze (h.left ▸ hz : q.left ≠ 0) millis
    have halike : p'.Alike q' := by
      refine ⟨?_, fun hzero => absurd (hleft ▸ hzero) hz⟩
      rw [hleft, hleft']
      exact h.left
    rw [hp, hq]
    exact halike.doze millis

end Pace

namespace Course

theorem Same.following {c c' : Course} (h : c.Same c') (e : Effect Task) (room room' : Nat) :
    (following e room c).Same (following e room' c') := by
  cases e with
  | panic payload => exact ⟨rfl, rfl⟩
  | note | observe | register => exact ⟨congrArg (_ :: ·) h.1, h.2⟩

end Course

theorem Pace.Waits.course {r r' : Except Nat Pace} (h : Waits r r') (limit : Duration)
    {rest : Pace → Course} (hrest : ∀ p q : Pace, p.Alike q → (rest p).Same (rest q)) :
    (Course.awaited limit rest r).Same (Course.awaited limit rest r') := by
  cases h with
  | late room room' => exact ⟨rfl, rfl⟩
  | on halike => exact hrest _ _ halike

/-- The body of a task that has time takes the same course in whatever turn. -/
theorem Pace.Alike.course {p q : Pace} (h : p.Alike q) (limit : Duration)
    (body : List (Step Task)) : (bodyCourse limit p body).Same (bodyCourse limit q body) := by
  induction body generalizing p q with
  | nil => exact ⟨rfl, rfl⟩
  | cons step rest ih =>
    cases step with
    | effect e => exact (ih h).following e _ _
    | fail chain => exact ⟨rfl, rfl⟩
    | yield => exact h.pause.course limit fun _ _ ha => ih ha
    | sleep millis => exact (h.sleep millis).course limit fun _ _ ha => ih ha

/-- With any time limit but none at all, the course of a task follows from its program and the
time limit alone. -/
theorem Task.course_same (t : Task) {limit : Duration} (h : limit ≠ .ofMillis 0)
    (room room' : Nat) : (t.course limit room).Same (t.course limit room') := by
  have hleft : allottedMillis limit ≠ 0 := fun hz => h (allottedMillis_eq_zero_iff.mp hz)
  have halike : Pace.Alike ⟨allottedMillis limit, room, room != 0⟩
      ⟨allottedMillis limit, room', room' != 0⟩ := ⟨rfl, fun hz => absurd hz hleft⟩
  unfold Task.course
  induction t.setup with
  | nil => exact halike.course limit t.body
  | cons e rest ih => exact ih.following e room room'

-- A sleep of a millisecond ends in time even if half a millisecond is all there is.
example : ((Task.make "s" none [] [.sleep 1]).course ⟨0, 500000, by decide⟩ allowance).failure
    = none := by
  decide

/-! ## What a course registers weighs less than its program -/

theorem weight_following_le (e : Effect Task) (room : Nat) {n : Nat} {c : Course}
    (h : total Task.weight c.registered ≤ n) :
    total Task.weight (Course.following e room c).registered ≤ Task.effectWeight e + n := by
  cases e with
  | register task =>
    show Task.weight task + total Task.weight c.registered ≤ 1 + Task.weight task + n
    omega
  | panic payload => exact Nat.zero_le _
  | note | observe =>
    show total Task.weight c.registered ≤ 1 + n
    omega

theorem weight_bodyCourse_le (limit : Duration) (p : Pace) (body : List (Step Task)) :
    total Task.weight (bodyCourse limit p body).registered ≤ Task.bodyWeight body := by
  induction body generalizing p with
  | nil => exact Nat.zero_le _
  | cons step rest ih =>
    cases step with
    | effect e => exact weight_following_le e p.room (ih p)
    | fail chain => exact Nat.zero_le _
    | yield | sleep millis =>
      simp only [bodyCourse, Course.awaited]
      split
      · exact Nat.zero_le _
      · next p' _ => exact Nat.le_trans (ih p') (Nat.le_add_left _ _)

theorem Task.weight_course_lt (t : Task) (limit : Duration) (room : Nat) :
    total Task.weight (t.course limit room).registered < t.weight := by
  have hsetup : ∀ setup : List (Effect Task),
      total Task.weight (setupCourse limit room t.body setup).registered
        ≤ Task.setupWeight setup + Task.bodyWeight t.body := by
    intro setup
    induction setup with
    | nil =>
      have hbody := weight_bodyCourse_le limit ⟨allottedMillis limit, room, room != 0⟩ t.body
      simp only [setupCourse, Task.setupWeight]
      omega
    | cons e rest ih =>
      have hfollowing := weight_following_le e room ih
      simp only [setupCourse, Task.setupWeight]
      omega
  have hall := hsetup t.setup
  have hweight : t.weight = 3 + Task.setupWeight t.setup + Task.bodyWeight t.body := by
    cases t with
    | make => rfl
  unfold Task.course
  omega

/-! ## The tour of a forest -/

/-- A task that is taken up: how many tasks are queued behind it, and its course. -/
structure Visit where
  task : Task
  behind : Nat
  course : Course
  deriving Repr

/-- The tour, as far as the bound goes. -/
def tourUpTo (limit : Duration) : Nat → Nat → List Task → List Visit
  | 0, _, _ | _ + 1, _, [] => []
  | bound + 1, room, t :: ts =>
    let c := t.course limit room
    ⟨t, ts.length, c⟩ :: tourUpTo limit bound c.room (ts ++ c.registered)

/-- The tour of a forest, from a turn with so much room on. The weight of the tasks bounds
the number of visits. -/
def tour (limit : Duration) (room : Nat) (ts : List Task) : List Visit :=
  tourUpTo limit (total Task.weight ts) room ts

/-- What is left when the first task has been visited weighs less than what there was. -/
theorem weight_left_lt (limit : Duration) (room : Nat) (t : Task) (ts : List Task) :
    total Task.weight (ts ++ (t.course limit room).registered)
      < total Task.weight (t :: ts) := by
  have hlt := t.weight_course_lt limit room
  have htotal : total Task.weight (t :: ts) = t.weight + total Task.weight ts := rfl
  rw [total_append]
  omega

theorem tourUpTo_eq (limit : Duration) (bound room : Nat) (ts : List Task)
    (h : total Task.weight ts ≤ bound) : tourUpTo limit bound room ts = tour limit room ts := by
  induction bound using Nat.strongRecOn generalizing room ts with
  | ind bound ih =>
    cases ts with
    | nil => cases bound <;> rfl
    | cons t ts =>
      have hleft := weight_left_lt limit room t ts
      obtain ⟨n, rfl⟩ : ∃ n, bound = n + 1 := ⟨bound - 1, by omega⟩
      obtain ⟨m, hm⟩ : ∃ m, total Task.weight (t :: ts) = m + 1 :=
        ⟨total Task.weight (t :: ts) - 1, by omega⟩
      unfold tour
      rw [hm, tourUpTo, tourUpTo, ih n (by omega) _ _ (by omega), ih m (by omega) _ _ (by omega)]

/-- The tour takes up the first task. What that registers comes after all others. -/
theorem tour_cons (limit : Duration) (room : Nat) (t : Task) (ts : List Task) :
    tour limit room (t :: ts) = ⟨t, ts.length, t.course limit room⟩ ::
      tour limit (t.course limit room).room (ts ++ (t.course limit room).registered) := by
  have hleft := weight_left_lt limit room t ts
  obtain ⟨m, hm⟩ : ∃ m, total Task.weight (t :: ts) = m + 1 :=
    ⟨total Task.weight (t :: ts) - 1, by omega⟩
  rw [tour, hm, tourUpTo, tourUpTo_eq limit m _ _ (by omega)]

/-- What holds of the empty forest, and of a forest if it holds of what is left when its
first task has been visited, holds of every forest. -/
theorem tour_induction {P : Nat → List Task → Prop} (limit : Duration)
    (nil : ∀ room, P room [])
    (cons : ∀ room t ts,
      P (t.course limit room).room (ts ++ (t.course limit room).registered) → P room (t :: ts))
    (room : Nat) (ts : List Task) : P room ts := by
  induction hn : total Task.weight ts using Nat.strongRecOn generalizing room ts with
  | ind n ih =>
    cases ts with
    | nil => exact nil room
    | cons t ts =>
      have hleft := weight_left_lt limit room t ts
      exact cons room t ts (ih _ (by omega) _ _ rfl)

/-- The tasks visited are those of the forest and then those that are registered on the way,
in the order of their registration, each once. -/
theorem map_task_tour (limit : Duration) (room : Nat) (ts : List Task) :
    (tour limit room ts).map Visit.task
      = ts ++ (tour limit room ts).flatMap (·.course.registered) := by
  refine tour_induction (P := fun room ts => (tour limit room ts).map Visit.task
      = ts ++ (tour limit room ts).flatMap (·.course.registered)) limit ?_ ?_ room ts
  · intro room
    rfl
  · intro room t ts ih
    rw [tour_cons, List.map_cons, ih, List.flatMap_cons, List.cons_append, List.append_assoc]

/-- Every visited task takes the course that follows from its program, the time limit and
the room of the turn in which it is taken up. -/
theorem course_of_mem_tour (limit : Duration) (room : Nat) (ts : List Task) :
    ∀ v ∈ tour limit room ts, ∃ r, v.course = v.task.course limit r := by
  refine tour_induction (P := fun room ts =>
      ∀ v ∈ tour limit room ts, ∃ r, v.course = v.task.course limit r) limit ?_ ?_ room ts
  · exact fun _ v hv => nomatch hv
  · intro room t ts ih v hv
    rw [tour_cons] at hv
    rcases List.mem_cons.mp hv with rfl | hv
    · exact ⟨room, rfl⟩
    · exact ih v hv

end EdgeRender.Deferred
