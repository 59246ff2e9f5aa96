import EdgeRender.Proofs.Deferred.Settling
import EdgeRender.Proofs.Server.Effect

/-! # What happens to the tasks of a request

Tasks are registered, the drain goes on by a step or is cancelled, and a scheduler that has
ended is dropped once more.
-/
namespace EdgeRender

open EdgeRender.Deferred

namespace Server

variable {σ : Type} {srv srv' : Server σ} {k : Nat} {stage : Stage}
  {accepted : List Deferred.Task}

/-! ## Drains -/

theorem JobsFit.putJob {j : Nat} {job : Job} {l : EventLoop} (h : srv.JobsFit)
    (hl : l.jobs = srv.loop.jobs.set j job)
    (hj : (∃ d, job = .drain d ∧ d.request < srv.requests.length) ∨
      ∃ ending, job = .over ending) : JobsFit { srv with loop := l } := by
  intro i hi
  have hset : i ∈ srv.loop.jobs.set j job := hl ▸ hi
  rcases List.mem_or_eq_of_mem_set hset with hold | rfl
  · exact h i hold
  · exact hj

/-- A request with a drain under way is at that stage, and has no other drain. -/
theorem Stands.draining {d : DrainJob} (h : srv.Stands k stage accepted)
    (hd : d ∈ srv.loop.drainsOf k) :
    stage = .draining d.drain ∧ srv.loop.drainsOf k = [d] := by
  have hdrains := h.drains
  cases stage with
  | draining e =>
    obtain ⟨x, hx, hxe⟩ := List.map_eq_singleton_iff.mp hdrains
    rw [hx] at hd
    obtain rfl := List.mem_singleton.mp hd
    rw [hxe]
    exact ⟨rfl, hx⟩
  | _ =>
    have hnil := List.map_eq_nil_iff.mp hdrains
    rw [hnil] at hd
    cases hd

/-- A request that is closed and not being drained has come to its end. -/
theorem Stands.isOver {r : RenderRequest} (h : srv.Stands k stage accepted)
    (hr : srv.request? k = some r) (hc : r.isOpen = false) (hd : srv.loop.drainsOf k = []) :
    stage.isOver = true := by
  obtain ⟨r', hr', -, hopen⟩ := h.request
  obtain rfl : r = r' := Option.some.inj (hr.symm.trans hr')
  have hdrains := h.drains
  rw [hc] at hopen
  rw [hd] at hdrains
  cases stage with
  | waiting => cases hopen
  | draining d => cases hdrains
  | _ => rfl

theorem Sound.request_lt {j : Nat} {d : DrainJob} (h : srv.Sound)
    (hj : srv.loop.jobs[j]? = some (.drain d)) : d.request < srv.requests.length := by
  rcases h.jobs _ (List.mem_of_getElem? hj) with ⟨e, he, hlt⟩ | ⟨ending, he⟩
  · obtain rfl := Job.drain.inj he
    exact hlt
  · cases he

/-- A loop in which the bench of one request, one job of it and the journal have changed. -/
theorem within_turn {j : Nat} {d : DrainJob} {b : Bench} {events₁ events₂ : List Event}
    {job : Job} (hj : srv.loop.jobs[j]? = some (.drain d)) (hk : d.request < srv.requests.length)
    (hb : b.journal = srv.loop.journal ++ events₁)
    (hn₁ : ∀ n, n ≠ d.request → Journal.Silent n events₁)
    (hn₂ : ∀ n, n ≠ d.request → Journal.Silent n events₂)
    (hjob : ∀ n, n ≠ d.request → job.drainOf? n = none)
    (hfits : (∃ e, job = .drain e ∧ e.request = d.request) ∨ ∃ ending, job = .over ending) :
    Within d.request srv
      { srv with loop := ((srv.loop.putBench d.request b).record events₂).putJob j job } := by
  refine ⟨rfl, ?_, ?_, ?_⟩
  · exact List.length_modify _ _ _
  · intro hfit
    refine hfit.putJob rfl ?_
    rcases hfits with ⟨e, he, hreq⟩ | hover
    · exact .inl ⟨e, he, by rw [hreq]; exact hk⟩
    · exact .inr hover
  · intro n hn
    refine ⟨rfl, fun r hr => ⟨r, hr, rfl, rfl⟩, ?_⟩
    have hput : EventLoop.Alike n srv.loop (srv.loop.putBench d.request b) :=
      .putBench hn hb (hn₁ n hn)
    have hold : (Job.drain d).drainOf? n = none := Job.drainOf?_of_ne (Ne.symm hn)
    refine (hput.trans (.record (hn₂ n hn))).trans (.putJob hj ?_)
    rw [hjob n hn, hold]

/-- What the observer is told in a turn fits the stage that the request comes to. -/
theorem tells_ofTurn {d : DrainJob} {turn : Turn} {ps : List Phase} (hh : d.hook = .observe)
    (hg : ∀ e, turn ≠ .givenUp e) (hps : (Stage.draining d.drain).Tells ps) :
    (Stage.ofTurn turn).Tells (ps ++ d.told turn) := by
  obtain rfl : ps = [.start, .flushed] := hps
  cases turn with
  | finished e =>
    have htold : d.told (.finished e) = [.drained] := if_pos hh
    rw [htold]
    rfl
  | givenUp e => exact absurd rfl (hg e)
  | go | paused | waiting => rfl

/-- A step of its drain brings a request to its next stage. -/
theorem Stands.stepped {j : Nat} {d : DrainJob} {s : Scheduler} {room : Nat} {watched : Bool}
    {b : Bench} {turn : Turn} {events₁ events₂ : List Event} {job : Job}
    (h : srv.Stands d.request stage accepted) (hj : srv.loop.jobs[j]? = some (.drain d))
    (hs : srv.loop.schedulers[d.request]? = some s)
    (hstep : srv.loop.Steps d s room watched b turn events₁ events₂ job) :
    Stands { srv with loop := ((srv.loop.putBench d.request b).record events₂).putJob j job }
      d.request (.ofTurn turn) (accepted ++ (srv.loop.bench d.request).queue.admitted
        (Drain.registers? { d.drain with room, watched }).toList) := by
  have hset := hstep.settles
  have hmem : d ∈ srv.loop.drainsOf d.request :=
    EventLoop.mem_drainsOf_of_getElem? hj
  obtain ⟨rfl, hone⟩ := h.draining hmem
  obtain ⟨-, hdrains⟩ := EventLoop.drainsOf_putJob (j := job) hj hone
  have hbench := srv.loop.bench_turn job b events₂ j hs
  have hjournal : (((srv.loop.putBench d.request b).record events₂).putJob j job).journal
      = srv.loop.journal ++ (events₁ ++ events₂) := by
    show b.journal ++ events₂ = _
    rw [hstep.journal, List.append_assoc]
  have hsound : Session.Sound (srv.loop.termsOf d.request s none).request
      ⟨srv.loop.bench d.request, .draining d.drain, accepted⟩ := h.sound
  have hsess := hsound.step (d := { d.drain with room, watched }) rfl rfl hstep.advances
  have hwaiting : (Stage.ofTurn turn).isWaiting = false := by
    cases turn <;> rfl
  obtain ⟨r, hr, hnum, hopen⟩ := h.request
  -- A request has one drain at most, and the job that was put back makes it.
  refine h.advance rfl ⟨r, hr, hnum, hopen.trans hwaiting.symm⟩ ?_ ?_ ?_ hjournal ?_
    (.inl ⟨_, rfl⟩)
  · show Session.Sound d.request ⟨EventLoop.bench _ _, _, _⟩
    rw [hbench]
    exact hsess.beside rfl rfl hset.started rfl rfl (fun _ => id) rfl
  · show (EventLoop.drainsOf _ _).map DrainJob.drain = _
    have hlist := hset.drains
    rw [← hdrains] at hlist
    exact hlist
  · intro f hf
    have hf' : f ∈ (job.drainOf? d.request).toList := hdrains ▸ hf
    rw [hset.hook f (Option.mem_toList.mp hf')]
    exact h.hook d hmem
  · intro ho ps hps
    rw [Journal.phasesOf_append, hstep.phases, List.nil_append, hset.phases]
    exact tells_ofTurn ((h.hook d hmem).trans (if_pos ho)) hstep.advances.ne_givenUp hps

theorem effect_stepped (h : srv.Sound) {j : Nat} {d : DrainJob} {s : Scheduler}
    (now room : Nat) (watched : Bool) (hj : srv.loop.jobs[j]? = some (.drain d))
    (hs : srv.loop.schedulers[d.request]? = some s) :
    Effect srv { srv with loop := srv.loop.stepDrain j d s now room watched } := by
  have hk := h.request_lt hj
  obtain ⟨b, turn, events₁, events₂, job, hstep, hl⟩ :=
    srv.loop.exists_stepDrain j d s now room watched
  have hset := hstep.settles
  rw [hl]
  refine .moves d.request hk
    (within_turn hj hk hstep.journal hstep.silent hset.silent hset.others hset.fits) ?_
  intro stage accepted hstands
  have hnext := hstands.stepped hj hs hstep
  obtain ⟨rfl, hone⟩ := hstands.draining
    (EventLoop.mem_drainsOf_of_getElem? hj)
  refine ⟨_, _, hnext, .advances hone ?_, ?_⟩
  · intro e he
    subst he
    cases hstep.advances with
    | closed hi hq => exact ⟨Drain.inFlight_of_idle hi, rfl⟩
    | rested hr hf hsame hu => cases hu
  · have hopen : (srv.loop.bench d.request).queue.closed = false :=
      Session.Sound.open_of_draining hstands.sound rfl
    have hle : d.drain.inFlight ≤ srv.loop.pending.count := by
      have hshare := h.share_le hk
      rw [hstands.share] at hshare
      exact Nat.le_trans (Nat.le_add_left _ _) hshare
    -- The count moves as the share of this request does.
    have hbal := hstep.advances.balance hopen hle
    have hshare : EventLoop.share (((srv.loop.putBench d.request b).record events₂).putJob j job)
        d.request = Session.share ⟨b.record events₂, .ofTurn turn, []⟩ := by
      rw [← srv.loop.bench_turn job b events₂ j hs]
      exact hnext.share
    rw [hstands.share]
    show b.pending.count + _ = srv.loop.pending.count + EventLoop.share _ d.request
    rw [hshare]
    exact hbal

/-- A request whose drain is dropped comes to its end. -/
theorem Stands.cancelled {j : Nat} {d : DrainJob} {s : Scheduler}
    (h : srv.Stands d.request stage accepted) (hj : srv.loop.jobs[j]? = some (.drain d))
    (hs : srv.loop.schedulers[d.request]? = some s) :
    Stands { srv with loop := srv.loop.cancelDrain j d } d.request
      (.cancelled d.drain.begun) accepted := by
  obtain ⟨rfl, hone⟩ := h.draining
    (EventLoop.mem_drainsOf_of_getElem? hj)
  obtain ⟨-, hdrains⟩ := EventLoop.drainsOf_putJob (j := .over .done) hj hone
  have hbench : (srv.loop.cancelDrain j d).bench d.request
      = giveUp (srv.loop.bench d.request) d.drain := EventLoop.bench_putBench _ hs
  have hsound : Session.Sound (srv.loop.termsOf d.request s none).request
      ⟨srv.loop.bench d.request, .draining d.drain, accepted⟩ := h.sound
  obtain ⟨r, hr, hnum, hopen⟩ := h.request
  refine h.advance rfl ⟨r, hr, hnum, hopen⟩ ?_ ?_ ?_ (List.append_nil _).symm ?_ (.inr rfl)
  · show Session.Sound d.request ⟨EventLoop.bench _ _, _, _⟩
    rw [hbench]
    exact Session.sound_after hsound .cancel
  · show (EventLoop.drainsOf _ _).map _ = _
    exact congrArg (List.map DrainJob.drain) hdrains
  · intro e he
    have hnone : e ∈ (Job.drainOf? d.request (.over .done)).toList := hdrains ▸ he
    cases hnone
  · intro _ ps hps
    show ps ++ [] = _
    rw [List.append_nil]
    exact hps

theorem effect_cancelled (h : srv.Sound) {j : Nat} {d : DrainJob}
    (hj : srv.loop.jobs[j]? = some (.drain d)) :
    Effect srv { srv with loop := srv.loop.cancelDrain j d } := by
  have hk := h.request_lt hj
  obtain ⟨s, hs⟩ := h.scheduler hk
  have hsilent : ∀ n, n ≠ d.request → Journal.Silent n [] := fun _ _ _ he => nomatch he
  have hl : srv.loop.cancelDrain j d = ((srv.loop.putBench d.request
      (giveUp (srv.loop.bench d.request) d.drain)).record []).putJob j (.over .done) := by
    rw [EventLoop.record_nil]
    rfl
  have hj' : (giveUp (srv.loop.bench d.request) d.drain).journal = srv.loop.journal ++ [] :=
    (List.append_nil _).symm
  have hwithin := within_turn hj hk hj' hsilent hsilent (fun _ _ => rfl) (.inr ⟨.done, rfl⟩)
  rw [← hl] at hwithin
  refine .moves d.request hk hwithin ?_
  intro stage accepted hstands
  have hnext := hstands.cancelled hj hs
  have hbench : (srv.loop.cancelDrain j d).bench d.request
      = giveUp (srv.loop.bench d.request) d.drain := EventLoop.bench_putBench _ hs
  obtain ⟨rfl, -⟩ := hstands.draining
    (EventLoop.mem_drainsOf_of_getElem? hj)
  refine ⟨_, _, hnext, .cancels, ?_⟩
  exact balance_of_after (srv.loop.termsOf d.request s none) .cancel h hk hstands rfl rfl hnext
    (congrArg Bench.queue hbench) rfl

/-! ## Queues -/

/-- A loop in which only the bench of one request has changed. -/
theorem within_putBench {b : Bench} {events : List Event}
    (hb : b.journal = srv.loop.journal ++ events)
    (hn : ∀ n, n ≠ k → Journal.Silent n events) :
    Within k srv { srv with loop := srv.loop.putBench k b } := by
  refine ⟨rfl, List.length_modify _ _ _, fun hfit => hfit, ?_⟩
  intro n hnk
  exact ⟨rfl, fun r hr => ⟨r, hr, rfl, rfl⟩, .putBench hnk hb (hn n hnk)⟩

theorem effect_register (h : srv.Sound) (hk : k < srv.requests.length) (task : Deferred.Task) :
    Effect srv (srv.register k task) := by
  obtain ⟨s, hs⟩ := h.scheduler hk
  obtain ⟨events, hj, hn⟩ := (srv.loop.bench k).journal_register task
  have hsilent : ∀ n, Journal.Silent n events := Journal.silent_of_nameless hn
  refine .moves k hk (within_putBench hj (fun n _ => hsilent n)) ?_
  intro stage accepted hstands
  have hbench : (srv.register k task).loop.bench k = (srv.loop.bench k).register task :=
    EventLoop.bench_putBench _ hs
  have hnext : (srv.register k task).Stands k stage
      (accepted ++ (srv.loop.bench k).queue.admitted [task]) := by
    refine hstands.advance rfl hstands.request ?_ hstands.drains hstands.hook hj ?_
      (.inr (Journal.startedOf_of_silent (hsilent k)))
    · rw [hbench]
      exact hstands.sound.register task rfl rfl (fun _ => id)
    · intro _ ps hps
      rw [Journal.phasesOf_of_silent (hsilent k), List.append_nil]
      exact hps
  refine ⟨_, _, hnext, .stays ?_, ?_⟩
  · intro ho
    have hclosed : (srv.loop.bench k).queue.closed = true := hstands.sound.closed_eq.trans ho
    simp [Queue.admitted, hclosed]
  · exact balance_of_after (srv.loop.termsOf k s none) (.register task) h hk hstands rfl rfl
      hnext (congrArg Bench.queue hbench) rfl

/-- A scheduler that has ended may be dropped once more. -/
theorem effect_dropped (h : srv.Sound) {r : RenderRequest} (hr : srv.request? k = some r)
    (hc : r.isOpen = false) (hd : srv.loop.drainsOf k = []) :
    Effect srv { srv with loop := (srv.loop.discard k).2 } := by
  have hk := lt_of_request? hr
  obtain ⟨s, hs⟩ := h.scheduler hk
  have hj : (srv.loop.bench k).discard.2.journal = srv.loop.journal ++ [] :=
    (List.append_nil _).symm
  refine .moves k hk (within_putBench hj (fun _ _ _ he => nomatch he)) ?_
  intro stage accepted hstands
  have hbench : (srv.loop.discard k).2.bench k = (srv.loop.bench k).discard.2 :=
    EventLoop.bench_putBench _ hs
  -- It is closed and nobody drains it, so its tasks are over, and a second drop changes nothing.
  have hover := hstands.isOver hr hc hd
  have hafter : Session.after (srv.loop.termsOf k s none) ⟨srv.loop.bench k, stage, accepted⟩
      .discard = ⟨(srv.loop.bench k).discard.2, stage, accepted⟩ := by
    cases stage with
    | waiting | draining => cases hover
    | _ => rfl
  have hsound : Session.Sound (srv.loop.termsOf k s none).request
      ⟨srv.loop.bench k, stage, accepted⟩ := hstands.sound
  have hnext : Stands { srv with loop := (srv.loop.discard k).2 } k stage accepted := by
    refine hstands.advance rfl hstands.request ?_ hstands.drains hstands.hook hj ?_ (.inr rfl)
    · show Session.Sound k ⟨EventLoop.bench _ _, _, _⟩
      rw [hbench, ← hafter]
      exact Session.sound_after hsound .discard
    · intro _ ps hps
      show stage.Tells (ps ++ [])
      rw [List.append_nil]
      exact hps
  refine ⟨_, _, hnext, .stays fun _ => rfl, ?_⟩
  exact balance_of_after (srv.loop.termsOf k s none) .discard h hk hstands rfl hafter hnext
    (congrArg Bench.queue hbench) rfl

end Server
end EdgeRender
