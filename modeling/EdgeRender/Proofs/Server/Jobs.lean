import EdgeRender.Proofs.Server.Pending

/-! # The jobs of a server

A request that has been completed is handed the job that drains its tasks, until somebody
takes the report. Whatever happens to the server, that job shows how far the tasks have
come: it drains them, it has their report, or it was dropped on the way.
-/
namespace EdgeRender

open EdgeRender.Deferred EdgeRender.Fetch EdgeRender.Stream

namespace Server

variable {σ : Type} {srv₀ srv srv' : Server σ} {k j : Nat} {stage : Stage}
  {accepted : List Deferred.Task}

/-! ## What is done at once -/

/-- No job goes on. One may be started, and it is handed to the request that it drains. -/
structure LeavesJobs (srv srv' : Server σ) : Prop where
  jobs : ∃ new, srv'.loop.jobs = srv.loop.jobs ++ new ∧
    ∀ job ∈ new, ∃ d, job = .drain d ∧ d.drain = {}
  drain : ∀ k r' j, srv'.request? k = some r' → r'.drain = some j →
    (∃ r, srv.request? k = some r ∧ r.drain = some j) ∨
      ∃ d, srv'.loop.jobs[j]? = some (.drain d) ∧ d.request = k

theorem LeavesJobs.getElem? (h : LeavesJobs srv srv') {job : Job}
    (hj : srv.loop.jobs[j]? = some job) : srv'.loop.jobs[j]? = some job := by
  obtain ⟨new, hjobs, -⟩ := h.jobs
  obtain ⟨hlt, -⟩ := List.getElem?_eq_some_iff.mp hj
  rw [hjobs, List.getElem?_append_left hlt]
  exact hj

theorem LeavesJobs.of_eq (hj : srv'.loop.jobs = srv.loop.jobs)
    (hr : srv'.requests = srv.requests) : LeavesJobs srv srv' := by
  refine ⟨⟨[], ?_, fun job hjob => nomatch hjob⟩, ?_⟩
  · rw [List.append_nil]
    exact hj
  · intro n r' i hreq hdrain
    unfold request? at hreq
    rw [hr] at hreq
    exact .inl ⟨r', hreq, hdrain⟩

/-- A request is changed, but handed no job. -/
theorem LeavesJobs.of_set {r q : RenderRequest} (h : srv.Sound) (hr : srv.request? k = some r)
    (hnum : q.number = r.number) (hd : ∀ i, q.drain = some i → r.drain = some i)
    (hj : srv'.loop.jobs = srv.loop.jobs)
    (hset : srv'.requests = srv.requests.set q.number q) : LeavesJobs srv srv' := by
  have hnum' : q.number = k := hnum.trans (h.number_of_request? hr)
  refine ⟨⟨[], ?_, fun job hjob => nomatch hjob⟩, ?_⟩
  · rw [List.append_nil]
    exact hj
  · intro n x i hreq hdrain
    unfold request? at hreq
    rw [hset, hnum'] at hreq
    by_cases hn : n = k
    · subst hn
      rw [List.getElem?_set_self (lt_of_request? hr)] at hreq
      obtain rfl := Option.some.inj hreq
      exact .inl ⟨r, hr, hd i hdrain⟩
    · rw [List.getElem?_set_ne (Ne.symm hn)] at hreq
      exact .inl ⟨x, hreq, hdrain⟩

theorem LeavesJobs.record (h : LeavesJobs srv srv') (events : List Event) :
    LeavesJobs srv (srv'.record events) :=
  ⟨h.jobs, h.drain⟩

theorem LeavesJobs.notify (h : LeavesJobs srv srv') (n : Nat) (phase : Phase) :
    LeavesJobs srv (srv'.notify n phase) := by
  rw [notify_eq]
  exact h.record _

theorem leavesJobs_close (h : srv.Sound) {r q : RenderRequest} (hr : srv.request? k = some r)
    (hnum : q.number = r.number) (hd : q.drain = r.drain) :
    LeavesJobs srv (srv.close q).2 := by
  have hsame : ∀ i, q.drain = some i → r.drain = some i := by
    intro i hi
    rw [← hd]
    exact hi
  exact .of_set (q := { q with isOpen := false }) h hr hnum hsame rfl rfl

theorem leavesJobs_complete (h : srv.Sound) {r : RenderRequest}
    (hr : srv.request? k = some r) : LeavesJobs srv (srv.complete r).2 := by
  have hnum := h.number_of_request? hr
  obtain ⟨answer, sink, hf⟩ : ∃ answer sink, r.sink.finish = (answer, sink) := ⟨_, _, rfl⟩
  cases answer with
  | error fault =>
    have hclose := leavesJobs_close (q := { r with sink }) h hr rfl rfl
    unfold complete
    rw [hf]
    exact (hclose.record _).notify _ _
  | ok receipt =>
    obtain ⟨lines, hc⟩ := srv.complete_eq hf
    rw [hc]
    refine ⟨⟨_, rfl, ?_⟩, ?_⟩
    · intro job hjob
      exact ⟨_, List.mem_singleton.mp hjob, rfl⟩
    · intro n q i hreq hdrain
      by_cases hn : n = r.number
      · subst hn
        rw [request?_putRequest _ (hnum ▸ lt_of_request? hr) rfl] at hreq
        obtain rfl := Option.some.inj hreq
        obtain rfl := Option.some.inj hdrain
        exact .inr ⟨_, List.getElem?_concat_length, rfl⟩
      · have hset : (srv.requests.set r.number _)[n]? = some q := hreq
        rw [List.getElem?_set_ne (Ne.symm hn)] at hset
        exact .inl ⟨q, hset, hdrain⟩

theorem leavesJobs_begin (srv : Server σ) (context : RequestContext) (channel : Channel) :
    LeavesJobs srv (srv.begin context channel).2 := by
  obtain ⟨s, r, -, -, -, hnone, he⟩ := srv.begin_eq context channel
  rw [he]
  refine ⟨⟨[], (List.append_nil _).symm, fun job hjob => nomatch hjob⟩, ?_⟩
  intro n q i hreq hdrain
  have hnew : (srv.requests ++ [r])[n]? = some q := hreq
  by_cases hn : n < srv.requests.length
  · rw [List.getElem?_append_left hn] at hnew
    exact .inl ⟨q, hnew, hdrain⟩
  · rw [List.getElem?_append_right (by omega)] at hnew
    rw [List.mem_singleton.mp (List.mem_of_getElem? hnew), hnone] at hdrain
    cases hdrain

theorem leavesJobs_fetch (h : srv.Sound) {r : RenderRequest} (hr : srv.request? k = some r)
    (input : Input) : LeavesJobs srv (srv.fetch r input).2 := by
  unfold fetch
  rcases r.client.fetch srv.fetcher input srv.fetches with ⟨answer, events, client, fetches⟩
  exact .of_set (q := { r with client }) h hr rfl (fun _ => id) rfl rfl

theorem leavesJobs_fetchJson (h : srv.Sound) {r : RenderRequest}
    (hr : srv.request? k = some r) (input : Input) : LeavesJobs srv (srv.fetchJson r input).2 := by
  unfold fetchJson
  rcases r.client.fetchJson srv.fetcher input srv.fetches with ⟨answer, events, client, fetches⟩
  exact .of_set (q := { r with client }) h hr rfl (fun _ => id) rfl rfl

theorem leavesJobs_prepare (h : srv.Sound) {r : RenderRequest}
    (hr : srv.request? k = some r) (input : Input) : LeavesJobs srv (srv.prepare r input).2 := by
  unfold prepare
  rcases r.client.prepare input with ⟨answer, events, client⟩
  exact .of_set (q := { r with client }) h hr rfl (fun _ => id) rfl rfl

theorem leavesJobs_actOn (h : srv.Sound) (k : Nat) (action : RequestAction)
    (ha : (Action.request k action).isPrompt = true) :
    LeavesJobs srv (srv.actOn k action).2 := by
  have hopen : ∀ act : RenderRequest → Answer × Server σ,
      (∀ r, srv.request? k = some r → LeavesJobs srv (act r).2) →
      LeavesJobs srv (srv.whileOpen k act).2 :=
    fun _ hact => holds_whileOpen (.of_eq rfl rfl) fun r hr => hact r (request?_of_open? hr)
  have hsink : ∀ act : RenderRequest → Answer × Server σ,
      (∀ r, srv.request? k = some r → LeavesJobs srv (act r).2) →
      LeavesJobs srv (srv.onSink k act).2 :=
    fun _ hact => holds_onSink (.of_eq rfl rfl) hact
  cases action with
  | after task => exact hopen _ fun _ _ => .of_eq rfl rfl
  | register task => exact hsink _ fun _ _ => .of_eq rfl rfl
  | prepare input => exact hopen _ fun r hr => holds_map _ _ (leavesJobs_prepare h hr input)
  | fetch input => exact hopen _ fun r hr => holds_map _ _ (leavesJobs_fetch h hr input)
  | fetchJson input => exact hopen _ fun r hr => holds_map _ _ (leavesJobs_fetchJson h hr input)
  | log level message fields => exact hopen _ fun _ _ => .of_eq rfl rfl
  | send chunk =>
    exact hsink _ fun r hr => .of_set (q := { r with sink := (r.sink.sendChunk chunk).2 })
      h hr rfl (fun _ => id) rfl rfl
  | finishSink =>
    exact hsink _ fun r hr => .of_set (q := { r with sink := r.sink.finish.2 })
      h hr rfl (fun _ => id) rfl rfl
  | dropReceiver =>
    exact hsink _ fun r hr =>
      .of_set (q := { r with sink := { r.sink with channel := r.sink.channel.dropReceiver } })
        h hr rfl (fun _ => id) rfl rfl
  | complete => exact hopen _ fun r hr => holds_map _ _ (leavesJobs_complete h hr)
  | abort =>
    exact hopen _ fun r hr => ((leavesJobs_close h hr rfl rfl).record _).notify r.number .aborted
  | drop => exact hopen _ fun r hr => leavesJobs_close h hr rfl rfl
  | hold | join => cases ha

theorem leavesJobs_act (h : srv.Sound) (a : Action) (ha : a.isPrompt = true) :
    LeavesJobs srv (srv.act a).2 := by
  cases a with
  | begin context channel => exact leavesJobs_begin srv context channel
  | request k action => exact leavesJobs_actOn h k action ha
  | shutdown | sleep => cases ha

/-! ## What the job of a request shows -/

/-- The job was started for the request, and shows at which stage its tasks are. -/
def Attends (srv : Server σ) (k j : Nat) : Prop :=
  ∃ job stage accepted, srv.loop.jobs[j]? = some job ∧ job.Shows k stage ∧
    srv.Stands k stage accepted

/-- Whoever asks for the drain of a request gets the job that was started for it. -/
def Attended (srv : Server σ) : Prop :=
  ∀ k r j, srv.request? k = some r → r.drain = some j → srv.Attends k j

theorem attends_of_drain (h : srv.Sound) {d : DrainJob}
    (hj : srv.loop.jobs[j]? = some (.drain d)) : srv.Attends d.request j := by
  obtain ⟨stage, accepted, hst⟩ := h.stands d.request (h.request_lt hj)
  obtain ⟨rfl, -⟩ := hst.draining (EventLoop.mem_drainsOf_of_getElem? hj)
  exact ⟨_, _, accepted, hj, .draining rfl, hst⟩

/-- While nothing happens to its job, a request stays at a stage that the job shows. -/
theorem Attends.kept (ha : srv.Attends k j) (h : srv.Sound)
    (hn : Next EventLoop.Stepped srv srv')
    (hj : ∀ job, srv.loop.jobs[j]? = some job → srv'.loop.jobs[j]? = some job) :
    srv'.Attends k j := by
  obtain ⟨job, stage, accepted, hjob, hshows, hst⟩ := ha
  cases hshows with
  | draining hd =>
    subst hd
    exact attends_of_drain ((effect_of_next h hn).sound h) (hj _ hjob)
  | reported => exact ⟨_, _, _, hj _ hjob, .reported, hst.ended_of_next h rfl hn⟩
  | cancelled => exact ⟨_, _, _, hj _ hjob, .cancelled, hst.ended_of_next h rfl hn⟩

/-- No drain of a server loses its report, since the observer does not panic. -/
theorem Sound.hook_isSafe (h : srv.Sound) {d : DrainJob}
    (hj : srv.loop.jobs[j]? = some (.drain d)) : d.hook.isSafe = true := by
  obtain ⟨stage, accepted, hst⟩ := h.stands d.request (h.request_lt hj)
  rw [hst.hook d (EventLoop.mem_drainsOf_of_getElem? hj)]
  unfold hook
  split <;> rfl

theorem Attends.stepped (ha : srv.Attends k j) (h : srv.Sound) {i : Nat} {d : DrainJob}
    {s : Scheduler} (now room : Nat) (watched : Bool)
    (hi : srv.loop.jobs[i]? = some (.drain d))
    (hs : srv.loop.schedulers[d.request]? = some s) :
    Attends { srv with loop := srv.loop.stepDrain i d s now room watched } k j := by
  obtain ⟨b, turn, events₁, events₂, job, hstep, hl⟩ :=
    srv.loop.exists_stepDrain i d s now room watched
  by_cases hij : i = j
  · subst hij
    obtain ⟨old, stage, accepted, hold, hshows, hst⟩ := ha
    obtain rfl := Option.some.inj (hi.symm.trans hold)
    cases hshows with
    | draining hd =>
      subst hd
      have hnext := hst.stepped hi hs hstep
      rw [hl]
      refine ⟨job, _, _, ?_, hstep.settles.shows (h.hook_isSafe hi), hnext⟩
      exact List.getElem?_set_self (List.getElem?_eq_some_iff.mp hi).1
  · refine ha.kept h (.looped (.stepped now room watched hi hs)) ?_
    intro old hold
    rw [hl]
    exact (List.getElem?_set_ne hij).trans hold

theorem Attends.cancelled (ha : srv.Attends k j) (h : srv.Sound) {i : Nat} {d : DrainJob}
    (hi : srv.loop.jobs[i]? = some (.drain d)) :
    Attends { srv with loop := srv.loop.cancelDrain i d } k j := by
  by_cases hij : i = j
  · subst hij
    obtain ⟨old, stage, accepted, hold, hshows, hst⟩ := ha
    obtain rfl := Option.some.inj (hi.symm.trans hold)
    cases hshows with
    | draining hd =>
      subst hd
      obtain ⟨s, hs⟩ := h.scheduler hst.lt
      refine ⟨.over .done, _, _, ?_, .cancelled, hst.cancelled hi hs⟩
      exact List.getElem?_set_self (List.getElem?_eq_some_iff.mp hi).1
  · refine ha.kept h (.looped (.cancelled hi)) ?_
    intro old hold
    exact (List.getElem?_set_ne hij).trans hold

/-- Whatever the loop does, the job of a request shows at which stage its tasks are. -/
theorem Attends.looped (ha : srv.Attends k j) (h : srv.Sound) {l : EventLoop}
    (hl : EventLoop.Stepped srv.loop l) : Attends { srv with loop := l } k j := by
  cases hl with
  | stepped now room watched hi hs => exact ha.stepped h now room watched hi hs
  | cancelled hi => exact ha.cancelled h hi
  | @orphaned i d hi hs =>
    obtain ⟨s, hsome⟩ := h.scheduler (h.request_lt hi)
    rw [hs] at hsome
    cases hsome
  | timed hi =>
    rw [runJob_of_fits h.jobs hi]
    exact ha
  | arranged now line credit elapsedMicros =>
    exact ha.kept h (.looped (.arranged now line credit elapsedMicros)) (fun _ => id)
  | alerted a => exact ha.kept h (.looped (.alerted a)) (fun _ => id)

theorem LeavesJobs.attended (hl : LeavesJobs srv srv') (h : srv.Sound) (ha : srv.Attended)
    (hn : Next EventLoop.Stepped srv srv') : srv'.Attended := by
  intro n r' i hr' hd
  rcases hl.drain n r' i hr' hd with ⟨r, hr, hdrain⟩ | ⟨d, hi, rfl⟩
  · exact (ha n r i hr hdrain).kept h hn fun _ => hl.getElem?
  · exact attends_of_drain ((effect_of_next h hn).sound h) hi

theorem attended_of_next (h : srv.Sound) (ha : srv.Attended)
    (hn : Next EventLoop.Stepped srv srv') : srv'.Attended := by
  cases hn with
  | acted a hp => exact (leavesJobs_act h a hp).attended h ha (.acted a hp)
  | looped hl =>
    intro n r i hr hd
    exact (ha n r i hr hd).looped h hl
  | @taken n r hr =>
    have hleaves : LeavesJobs srv (srv.putRequest { r with drain := none }) :=
      .of_set (q := { r with drain := none }) h hr rfl (fun i hi => nomatch hi) rfl rfl
    exact hleaves.attended h ha (.taken hr)
  | @dropped n r hr hc hd =>
    have hleaves : LeavesJobs srv { srv with loop := (srv.loop.discard n).2 } := .of_eq rfl rfl
    exact hleaves.attended h ha (.dropped hr hc hd)

/-- In every run the job that a request is handed shows at which stage its tasks are. -/
theorem attended_of_reaches (hnew : srv₀.IsNew) (hr : srv₀.Reaches EventLoop.Stepped srv) :
    srv.Attended := by
  induction hr with
  | refl =>
    intro n r i hreq
    unfold request? at hreq
    rw [hnew.requests] at hreq
    cases hreq
  | tail hab hn ih => exact attended_of_next (sound_of_reaches hnew.sound hab) ih hn

end Server
end EdgeRender
