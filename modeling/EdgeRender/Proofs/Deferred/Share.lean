import EdgeRender.Deferred.EventLoop
import EdgeRender.Proofs.Deferred.Balance

/-! # What a request has pending

The drains under way for a request are found among the jobs of the loop. With the queue
they make up the share of the request in the pending work.
-/
namespace EdgeRender.Deferred

/-- The drain that a job makes for a request. -/
def Job.drainOf? (request : Nat) : Job → Option DrainJob
  | .drain d => if d.request = request then some d else none
  | .acquire _ | .release .. | .over _ => none

theorem Job.drainOf?_self (d : DrainJob) : (Job.drain d).drainOf? d.request = some d :=
  if_pos rfl

theorem Job.drainOf?_of_ne {d : DrainJob} {request : Nat} (h : d.request ≠ request) :
    (Job.drain d).drainOf? request = none :=
  if_neg h

/-- Entries of a list that are picked out, before and after one entry is replaced. -/
theorem exists_filterMap_set {α β : Type} {xs : List α} {k : Nat} {x : α}
    (f : α → Option β) (h : xs[k]? = some x) :
    ∃ before after, xs.filterMap f = before ++ (f x).toList ++ after ∧
      ∀ y, (xs.set k y).filterMap f = before ++ (f y).toList ++ after := by
  obtain ⟨hk, hx⟩ := List.getElem?_eq_some_iff.mp h
  have hset : ∀ y, (xs.set k y).filterMap f
      = (xs.take k).filterMap f ++ (f y).toList ++ (xs.drop (k + 1)).filterMap f := by
    intro y
    rw [List.set_eq_take_append_cons_drop, if_pos hk, List.filterMap_append, List.append_assoc]
    cases hy : f y with
    | none => simp [hy]
    | some z => simp [hy]
  refine ⟨(xs.take k).filterMap f, (xs.drop (k + 1)).filterMap f, ?_, hset⟩
  rw [← hset x, ← hx, List.set_getElem_self]

def Stage.drains : Stage → List Drain
  | .draining d => [d]
  | .waiting | .reported _ | .cancelled _ | .discarded => []

theorem Stage.total_inFlight_drains (stage : Stage) :
    total Drain.inFlight stage.drains = stage.inFlight := by
  cases stage <;> rfl

namespace EventLoop

def drainsOf (l : EventLoop) (request : Nat) : List DrainJob :=
  l.jobs.filterMap (Job.drainOf? request)

/-- The pending work on account of a request: its tasks that are queued and those in
flight. -/
def share (l : EventLoop) (request : Nat) : Nat :=
  l.queued request + total (·.drain.inFlight) (l.drainsOf request)

theorem record_nil (l : EventLoop) : l.record [] = l := by
  unfold record
  rw [List.append_nil]

theorem mem_drainsOf {l : EventLoop} {request : Nat} {d : DrainJob} :
    d ∈ l.drainsOf request ↔ .drain d ∈ l.jobs ∧ d.request = request := by
  constructor
  · intro h
    obtain ⟨job, hjob, hd⟩ := List.mem_filterMap.mp h
    cases job with
    | drain e =>
      by_cases he : e.request = request
      · simp only [Job.drainOf?, if_pos he, Option.some.injEq] at hd
        subst hd
        exact ⟨hjob, he⟩
      · simp only [Job.drainOf?, if_neg he] at hd
        cases hd
    | _ => cases hd
  · rintro ⟨hd, rfl⟩
    exact List.mem_filterMap.mpr ⟨_, hd, Job.drainOf?_self d⟩

theorem mem_drainsOf_of_getElem? {l : EventLoop} {j : Nat} {d : DrainJob}
    (hj : l.jobs[j]? = some (.drain d)) : d ∈ l.drainsOf d.request :=
  mem_drainsOf.mpr ⟨List.mem_of_getElem? hj, rfl⟩

/-- A job that drains for another request, before and after, may be replaced. -/
theorem drainsOf_putJob_of_eq {l : EventLoop} {k request : Nat} {i j : Job}
    (hj : l.jobs[k]? = some i) (h : j.drainOf? request = i.drainOf? request) :
    (l.putJob k j).drainsOf request = l.drainsOf request := by
  obtain ⟨before, after, hold, hnew⟩ := exists_filterMap_set (Job.drainOf? request) hj
  show (l.jobs.set k j).filterMap _ = l.jobs.filterMap _
  rw [hold, hnew, h]

/-- The only drain of a request is replaced with its job. -/
theorem drainsOf_putJob {l : EventLoop} {k : Nat} {d e : DrainJob} {j : Job}
    (hj : l.jobs[k]? = some (.drain d)) (h : l.drainsOf d.request = [e]) :
    e = d ∧ (l.putJob k j).drainsOf d.request = (j.drainOf? d.request).toList := by
  obtain ⟨before, after, hold, hnew⟩ := exists_filterMap_set (Job.drainOf? d.request) hj
  have hone : before ++ [d] ++ after = [e] := by
    rw [Job.drainOf?_self] at hold
    exact hold.symm.trans h
  have hempty : before = [] ∧ after = [] := by
    have hlen := congrArg List.length hone
    simp only [List.length_append, List.length_singleton] at hlen
    exact ⟨List.eq_nil_of_length_eq_zero (by omega), List.eq_nil_of_length_eq_zero (by omega)⟩
  obtain ⟨rfl, rfl⟩ := hempty
  refine ⟨(List.cons.inj hone).1.symm, ?_⟩
  show (l.jobs.set k j).filterMap _ = _
  rw [hnew]
  simp

theorem drainsOf_startDrain (l : EventLoop) (k : Nat) (hook : Hook) (name : String) :
    (l.startDrain k hook name).2.drainsOf k
      = l.drainsOf k ++ [{ request := k, hook, name, due := l.now }] := by
  show (l.jobs ++ [_]).filterMap _ = _
  rw [List.filterMap_append]
  simp [drainsOf, Job.drainOf?]

end EventLoop
end EdgeRender.Deferred
