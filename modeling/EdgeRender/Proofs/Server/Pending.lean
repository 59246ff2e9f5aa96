import EdgeRender.Proofs.Server.Moves

/-! # The count of pending work

All requests of a server share one count of pending work. Whatever happens to the server,
in whatever order, the count is the number of tasks that are queued and in flight, over
all requests; so it is zero exactly if there are none. Nothing is ever taken off it that
is not there. A request that has ended has no share in it, and gets none any more.
-/
namespace EdgeRender

open EdgeRender.Deferred

namespace Deferred

/-- Of the tasks that were let in some are queued and at most one is in flight. -/
theorem Session.Sound.share_le {request : Nat} {s : Session} (h : s.Sound request) :
    s.share ≤ s.bench.queue.nextId := by
  cases ho : s.stage.isOver with
  | true =>
    have hq : s.bench.queue.tasks.length = 0 := by
      rw [(h.ended ho).2]
      rfl
    unfold Session.share
    rw [hq, Stage.inFlight_of_isOver ho]
    exact Nat.zero_le _
  | false =>
    have hlen := congrArg List.length (h.underWay ho).2
    have hids := congrArg List.length (map_id_ticketsOf s.accepted)
    have hflight : s.stage.inFlight ≤ s.stage.begun.length := by
      cases hs : s.stage with
      | draining d =>
        show d.inFlight ≤ d.begun.length
        rw [← d.length_ticket?, Drain.begun, List.length_append]
        exact Nat.le_add_left _ _
      | _ => exact Nat.zero_le _
    simp only [List.length_append, List.length_map, List.length_range] at hlen hids
    unfold Session.share
    rw [h.numbered]
    omega

theorem total_eq_zero_iff {α : Type} (weight : α → Nat) (xs : List α) :
    total weight xs = 0 ↔ ∀ x ∈ xs, weight x = 0 := by
  induction xs with
  | nil => simp [total]
  | cons x xs ih => simp [total, ih]

theorem EventLoop.share_eq_zero_iff (l : EventLoop) (k : Nat) :
    l.share k = 0 ↔ l.queued k = 0 ∧ ∀ d ∈ l.drainsOf k, d.drain.inFlight = 0 := by
  unfold EventLoop.share
  rw [Nat.add_eq_zero_iff, total_eq_zero_iff]

end Deferred

namespace Server

variable {σ : Type} {srv₀ srv srv' : Server σ} {k : Nat} {stage : Stage}
  {accepted : List Deferred.Task}

/-- After its end a request stays as it is. -/
theorem Stands.ended_of_next (h : srv.Stands k stage accepted) (hs : srv.Sound)
    (ho : stage.isOver = true) (hn : Next EventLoop.Stepped srv srv') :
    srv'.Stands k stage accepted := by
  obtain ⟨stage', accepted', hst, hf⟩ := (effect_of_next hs hn).fate h
  cases hf with
  | stays hsame =>
    rw [hsame ho] at hst
    exact hst
  | completes | closes | advances | cancels => cases ho

theorem Stands.ended_of_reaches (h : srv.Stands k stage accepted) (hs : srv.Sound)
    (ho : stage.isOver = true) (hr : srv.Reaches EventLoop.Stepped srv') :
    srv'.Stands k stage accepted := by
  induction hr with
  | refl => exact h
  | tail hab hn ih => exact ih.ended_of_next (sound_of_reaches hs hab) ho hn

theorem Stands.share_eq_zero (h : srv.Stands k stage accepted) (ho : stage.isOver = true) :
    srv.loop.share k = 0 := by
  rw [h.share]
  unfold Session.share
  have hq : (srv.loop.bench k).queue.tasks = [] := (h.sound.ended ho).2
  rw [hq, Stage.inFlight_of_isOver ho]
  rfl

/-- What holds of the pending work at any moment. -/
structure Balanced (srv : Server σ) : Prop where
  /-- The count is that of the tasks queued and in flight. -/
  count : srv.loop.pending.count
    = ∑ k ∈ Finset.range srv.requests.length, srv.loop.share k
  /-- No work is pending exactly if no task is queued or in flight. -/
  idle : srv.loop.pending.isIdle = true ↔ ∀ k < srv.requests.length,
    srv.loop.queued k = 0 ∧ ∀ d ∈ srv.loop.drainsOf k, d.drain.inFlight = 0
  /-- There is no more of it than there were registrations. -/
  bounded : srv.loop.pending.count
    ≤ ∑ k ∈ Finset.range srv.requests.length, (srv.loop.queue k).nextId
  /-- Whatever happens to a drain under way, `releases` is what is taken off, and it is
  there. -/
  covered : ∀ k < srv.requests.length, ∀ d ∈ srv.loop.drainsOf k, ∀ terms : Terms,
    ∀ happening : Happening, happening.isOwn = true →
      let s : Session := ⟨srv.loop.bench k, .draining d.drain, []⟩
      srv.loop.pending.Covers (s.releases terms happening) ∧
        ∃ n, (s.after terms happening).bench.pending
          = (s.releases terms happening).foldl Pending.release
            (Pending.acquire^[n] srv.loop.pending)
  /-- Whenever a queue is dropped, what is in it is taken off, and it is there. -/
  discarded : ∀ k < srv.requests.length, srv.loop.queued k ≤ srv.loop.pending.count ∧
    (srv.loop.discard k).2.pending = srv.loop.pending.release (srv.loop.queued k)
  /-- Once its tasks have come to an end, in whatever way, a request has no share. -/
  ended : ∀ k r, srv.request? k = some r → r.isOpen = false → srv.loop.drainsOf k = [] →
    ∀ srv', srv.Reaches EventLoop.Stepped srv' →
      srv'.loop.share k = 0 ∧ srv'.loop.queue k = srv.loop.queue k

theorem Sound.balanced (h : srv.Sound) : srv.Balanced := by
  refine ⟨h.balance, ?_, ?_, ?_, ?_, ?_⟩
  · rw [Pending.isIdle_iff, h.balance, Finset.sum_eq_zero_iff]
    constructor
    · intro hz k hk
      exact (srv.loop.share_eq_zero_iff k).mp (hz k (Finset.mem_range.mpr hk))
    · intro hz k hk
      exact (srv.loop.share_eq_zero_iff k).mpr (hz k (Finset.mem_range.mp hk))
  · rw [h.balance]
    refine Finset.sum_le_sum ?_
    intro k hk
    obtain ⟨stage, accepted, hst⟩ := h.stands k (Finset.mem_range.mp hk)
    rw [hst.share]
    exact hst.sound.share_le
  · intro k hk d hd terms happening hown
    obtain ⟨stage, accepted, hst⟩ := h.stands k hk
    obtain ⟨rfl, -⟩ := hst.draining hd
    have hle := h.share_le hk
    rw [hst.share] at hle
    exact ⟨Session.covers_releases hle happening, _, Session.pending_after happening hown⟩
  · intro k hk
    exact ⟨Nat.le_trans (Nat.le_add_right _ _) (h.share_le hk), rfl⟩
  · intro k r hr hc hd srv' hreach
    have hk := lt_of_request? hr
    obtain ⟨stage, accepted, hst⟩ := h.stands k hk
    have ho := hst.isOver hr hc hd
    have hst' := hst.ended_of_reaches h ho hreach
    refine ⟨hst'.share_eq_zero ho, ?_⟩
    have hq := hst.sound.queue_of_isOver ho
    have hq' := hst'.sound.queue_of_isOver ho
    exact hq'.trans hq.symm

/-- Whatever has happened to a server since it was new, its pending work is that of the
tasks queued and in flight. -/
theorem balanced_of_reaches (hnew : srv₀.IsNew) (hr : srv₀.Reaches EventLoop.Stepped srv) :
    srv.Balanced :=
  (sound_of_reaches hnew.sound hr).balanced

/-- Two requests have two tasks each. The second one is dropped, and the first one is
completed; its first task registers another and sleeps. -/
def twoRequests : List Action :=
  let context : RequestContext := { requestId := ⟨"r"⟩, method := .get, path := "/" }
  let late : Deferred.Task := .make "c" none [] []
  [.begin context {}, .begin context {},
    .request 0 (.after (.make "a" none [.register late] [.sleep 50])),
    .request 0 (.after (.make "b" none [] [])),
    .request 1 (.after late), .request 1 (.register late),
    .request 1 .drop, .request 1 (.register late),
    .request 0 .complete, .sleep 10]

theorem balanced_twoRequests :
    ∃ srv : Server Fetch.Catalog, srv.Balanced ∧ srv.loop.pending.count = 3 ∧
      srv.loop.share 0 = 3 ∧ srv.loop.share 1 = 0 := by
  let start := canned {}
  have hr := (start.reaches_run twoRequests).steps
  refine ⟨_, balanced_of_reaches (isNew_canned {}) hr, ?_, ?_, ?_⟩
  · decide +kernel
  · decide +kernel
  · decide +kernel

end Server
end EdgeRender
