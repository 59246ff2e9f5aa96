import EdgeRender.Proofs.Deferred.Locality
import EdgeRender.Proofs.Fetch.Handover
import EdgeRender.Proofs.Server.Jobs

/-! # What belongs to one request

Whatever happens to a server is a sequence of moves: a request begins, a deed is done with
one request, or the loop is arranged anew. The deeds are the smallest there are, down to the
single steps of a drain. `Portrait` is all that belongs to one request; a deed that is done
with another request leaves it as it is.
-/
namespace EdgeRender

open EdgeRender.Deferred EdgeRender.Fetch EdgeRender.Stream

/-- What is done with one request between two looks of anybody else. -/
inductive Deed where
  /-- An action that does not wait. -/
  | act (action : RequestAction) (prompt : (Action.request 0 action).isPrompt = true)
  /-- Its drain makes a step, at some time and with so much room. -/
  | step (now room : Nat) (watched : Bool)
  /-- Its drain is dropped. -/
  | cancel
  /-- The report of its drain is taken. -/
  | take
  /-- Its scheduler, which has ended, is dropped once more. -/
  | drop

/-- What happens to a server between two looks at it. -/
inductive Move where
  | begin (context : RequestContext) (channel : Channel)
  | deed (k : Nat) (d : Deed)
  /-- Time passes, and the loop goes over its jobs. -/
  | arrange (now : Nat) (line : List Nat) (credit elapsedMicros : Nat)
  | alert (a : Alert)

theorem isPrompt_request (k n : Nat) (action : RequestAction) :
    (Action.request k action).isPrompt = (Action.request n action).isPrompt := by
  cases action <;> rfl

/-- What a request gets to see of a move: the answer, and the fetches handed over for it. -/
structure Sight where
  answer : Answer
  handedOver : List Dispatch

/-- What a request can look at whenever it likes. -/
structure Glance where
  /-- How many warnings have been spelled out for it. -/
  emitted : Nat
  /-- How many of its tasks are queued. -/
  deferred : Nat
  /-- How its drain ended, if it has, and until that is taken. -/
  ending : Option Ending

namespace Server

variable {σ : Type} {srv srv' srv'' : Server σ} {k n : Nat}

def report? (srv : Server σ) (r : RenderRequest) : Option Report :=
  match r.drain.bind srv.loop.ending? with
  | some (.reported report) => some report
  | some (.lost _) | some .done | none => none

/-- Let the drain of a request go on, while it is under way. -/
def whileDraining (srv : Server σ) (k : Nat)
    (goOn : Nat → DrainJob → Scheduler → EventLoop) : Answer × Server σ :=
  match srv.loop.drainJob? k, srv.loop.schedulers[k]? with
  | some (j, d), some s => (.done, { srv with loop := goOn j d s })
  | _, _ => (.notDrained, srv)

/-- Do a deed. One for which there is no occasion changes nothing. -/
def perform (srv : Server σ) (k : Nat) : Deed → Answer × Server σ
  | .act action _ => srv.actOn k action
  | .step now room watched =>
    srv.whileDraining k fun j d s => srv.loop.stepDrain j d s now room watched
  | .cancel => srv.whileDraining k fun j d _ => srv.loop.cancelDrain j d
  | .take => srv.onSink k fun r => (.joined (srv.report? r), srv.putRequest { r with drain := none })
  | .drop => srv.onSink k fun r =>
    if r.isOpen || (srv.loop.drainJob? k).isSome then (.notDrained, srv)
    else (.done, { srv with loop := (srv.loop.discard k).2 })

def dispatched (srv : Server σ) : List Dispatch :=
  srv.loop.journal.dispatches

/-- What is seen of a move that has led from one server to another. -/
def sight (before : Server σ) (answer : Answer) (after : Server σ) : Sight :=
  ⟨answer, after.dispatched.drop before.dispatched.length⟩

/-- Make a move. Whose move is it, and what is seen of it? -/
def move (srv : Server σ) : Move → Option (Nat × Sight) × Server σ
  | .begin context channel =>
    let (k, after) := srv.begin context channel
    (some (k, srv.sight .done after), after)
  | .deed k d =>
    let (answer, after) := srv.perform k d
    (some (k, srv.sight answer after), after)
  | .arrange now line credit elapsedMicros =>
    (none, { srv with loop := { srv.loop with now, line, credit, elapsedMicros } })
  | .alert a => (none, srv.record [.alert a])

def play (srv : Server σ) : List Move → List (Nat × Sight) × Server σ
  | [] => ([], srv)
  | m :: ms =>
    let (sight, after) := srv.move m
    let (sights, final) := after.play ms
    (sight.toList ++ sights, final)

/-- What a request gets to see of its moves, one after another. -/
def sights (srv : Server σ) (k : Nat) (ms : List Move) : List Sight :=
  ((srv.play ms).1.filter (·.1 == k)).map (·.2)

def glance (srv : Server σ) (k : Nat) : Option Glance :=
  (srv.request? k).map fun r =>
    ⟨r.client.diagnostics.count, srv.loop.queued k, r.drain.bind srv.loop.ending?⟩

theorem play_append (srv : Server σ) (ms ms' : List Move) :
    (srv.play (ms ++ ms')).2 = ((srv.play ms).2.play ms').2 := by
  induction ms generalizing srv with
  | nil => rfl
  | cons m ms ih => exact ih (srv.move m).2

/-! ## Moves are all that happens -/

theorem holds_whileDraining {P : Server σ → Prop}
    {goOn : Nat → DrainJob → Scheduler → EventLoop} (hsrv : P srv)
    (h : ∀ j d s, srv.loop.jobs[j]? = some (.drain d) → d.request = k →
      srv.loop.schedulers[k]? = some s → P { srv with loop := goOn j d s }) :
    P (srv.whileDraining k goOn).2 := by
  unfold whileDraining
  split
  · next j d s hj hs =>
    obtain ⟨hjob, hreq⟩ := EventLoop.getElem?_of_drainJob? hj
    exact h j d s hjob hreq hs
  · exact hsrv

theorem reaches_perform (srv : Server σ) (k : Nat) (d : Deed) :
    srv.Reaches EventLoop.Stepped (srv.perform k d).2 := by
  cases d with
  | act action hp =>
    have hp' := (isPrompt_request k 0 action).trans hp
    exact Next.reaches (.acted (.request k action) hp')
  | step now room watched =>
    refine holds_whileDraining (P := srv.Reaches EventLoop.Stepped) (.refl srv) ?_
    rintro j d s hj rfl hs
    exact Next.reaches (.looped (.stepped now room watched hj hs))
  | cancel =>
    refine holds_whileDraining (P := srv.Reaches EventLoop.Stepped) (.refl srv) ?_
    intro j d s hj _ _
    exact Next.reaches (.looped (.cancelled hj))
  | take =>
    exact holds_onSink (P := srv.Reaches EventLoop.Stepped) (.refl srv)
      fun r hr => Next.reaches (.taken hr)
  | drop =>
    refine holds_onSink (P := srv.Reaches EventLoop.Stepped) (.refl srv) fun r hr => ?_
    split
    · exact .refl srv
    · next hcond =>
      obtain ⟨hopen, hnone⟩ := Bool.or_eq_false_iff.mp (Bool.eq_false_iff.mpr hcond)
      rw [Option.isSome_eq_false_iff, Option.isNone_iff_eq_none] at hnone
      exact Next.reaches (.dropped hr hopen (EventLoop.drainJob?_eq_none_iff.mp hnone))

theorem reaches_move (srv : Server σ) (m : Move) :
    srv.Reaches EventLoop.Stepped (srv.move m).2 := by
  cases m with
  | begin context channel => exact Next.reaches (.acted (.begin context channel) rfl)
  | deed k d => exact reaches_perform srv k d
  | arrange now line credit elapsedMicros =>
    exact Next.reaches (.looped (.arranged now line credit elapsedMicros))
  | alert a => exact Next.reaches (.looped (.alerted a))

/-- A request has one drain at most. -/
theorem Sound.drainsOf_eq (h : srv.Sound) {j : Nat} {d : DrainJob}
    (hj : srv.loop.jobs[j]? = some (.drain d)) : srv.loop.drainsOf d.request = [d] := by
  obtain ⟨stage, accepted, hst⟩ := h.stands d.request (h.request_lt hj)
  exact (hst.draining (EventLoop.mem_drainsOf_of_getElem? hj)).2

/-- Every drain that is under way can go on. -/
theorem Sound.whileDraining_eq (h : srv.Sound) {j : Nat} {d : DrainJob} {s : Scheduler}
    (hj : srv.loop.jobs[j]? = some (.drain d)) (hs : srv.loop.schedulers[d.request]? = some s)
    (goOn : Nat → DrainJob → Scheduler → EventLoop) :
    srv.whileDraining d.request goOn = (.done, { srv with loop := goOn j d s }) := by
  simp only [whileDraining, EventLoop.drainJob?_of_getElem? (h.drainsOf_eq hj) hj, hs]

theorem exists_play_of_next (h : srv.Sound) (hn : Next EventLoop.Stepped srv srv') :
    ∃ ms, (srv.play ms).2 = srv' := by
  -- Whatever the loop does to a drain is a deed of the request that the job belongs to.
  cases hn with
  | acted a hp =>
    cases a with
    | begin context channel => exact ⟨[.begin context channel], rfl⟩
    | request k action =>
      exact ⟨[.deed k (.act action ((isPrompt_request 0 k action).trans hp))], rfl⟩
    | shutdown | sleep => cases hp
  | looped hl =>
    cases hl with
    | @stepped j d s now room watched hj hs =>
      exact ⟨[.deed d.request (.step now room watched)],
        congrArg Prod.snd (h.whileDraining_eq hj hs _)⟩
    | @cancelled j d hj =>
      obtain ⟨s, hs⟩ := h.scheduler (h.request_lt hj)
      exact ⟨[.deed d.request .cancel], congrArg Prod.snd (h.whileDraining_eq hj hs _)⟩
    | @orphaned j d hj hs =>
      obtain ⟨s, hsome⟩ := h.scheduler (h.request_lt hj)
      rw [hs] at hsome
      cases hsome
    | timed hj =>
      rw [runJob_of_fits h.jobs hj]
      exact ⟨[], rfl⟩
    | arranged now line credit elapsedMicros =>
      exact ⟨[.arrange now line credit elapsedMicros], rfl⟩
    | alerted a => exact ⟨[.alert a], rfl⟩
  | @taken k r hr =>
    refine ⟨[.deed k .take], ?_⟩
    show (srv.perform k .take).2 = _
    simp only [perform, onSink, hr]
  | @dropped k r hr hc hd =>
    refine ⟨[.deed k .drop], ?_⟩
    show (srv.perform k .drop).2 = _
    have hnone := EventLoop.drainJob?_eq_none_iff.mpr hd
    simp only [perform, onSink, hr, hc, hnone]
    rfl

/-- Whatever happens to a server is a sequence of moves. -/
theorem exists_play_of_reaches (h : srv.Sound) (hr : srv.Reaches EventLoop.Stepped srv') :
    ∃ ms, (srv.play ms).2 = srv' := by
  induction hr with
  | refl => exact ⟨[], rfl⟩
  | tail hab hn ih =>
    obtain ⟨ms, hms⟩ := ih
    obtain ⟨ms', hms'⟩ := exists_play_of_next (sound_of_reaches h hab) hn
    refine ⟨ms ++ ms', ?_⟩
    rw [play_append, hms, hms']

/-! ## What a run of actions answers -/

theorem sights_append (srv : Server σ) (k : Nat) (ms ms' : List Move) :
    srv.sights k (ms ++ ms') = srv.sights k ms ++ (srv.play ms).2.sights k ms' := by
  induction ms generalizing srv with
  | nil => rfl
  | cons m ms ih =>
    have hm := ih (srv.move m).2
    unfold sights at hm ⊢
    simp only [List.cons_append, play, List.filter_append, List.map_append, List.append_assoc,
      hm]

theorem sights_deed (srv : Server σ) (k n : Nat) (d : Deed) :
    srv.sights k [.deed n d]
      = if n = k then [srv.sight (srv.perform n d).1 (srv.perform n d).2] else [] := by
  unfold sights
  by_cases hn : n = k
  · simp [play, move, hn]
  · simp [play, move, hn]

/-- What a request hears when an action has been answered. How long others waited, and that
there was no report, is not for it. -/
def heard (k : Nat) : Action × Answer → Option Answer
  | (.request _ (.hold _), _) => none
  | (.request n .join, .joined (some report)) =>
    if n = k then some (.joined (some report)) else none
  | (.request _ .join, _) => none
  | (.request n _, answer) => if n = k then some answer else none
  | (.begin .., _) | (.shutdown _, _) | (.sleep _, _) => none

theorem heard_request (k n : Nat) (action : RequestAction) (answer : Answer)
    (ha : (Action.request n action).isPrompt = true) :
    heard k (.request n action, answer) = if n = k then some answer else none := by
  cases action with
  | hold | join => cases ha
  | _ => rfl

/-- A report that has been waited for is there to be taken. -/
theorem exists_play_of_join (h : srv.Sound) {r : RenderRequest} {job : Nat} {report : Report}
    (hr : srv.request? k = some r) (hd : r.drain = some job)
    (hjoin : (srv.join r job).1 = some report) :
    ∃ ms, (srv.play ms).2 = (srv.join r job).2 ∧
      .joined (some report) ∈ (srv.sights k ms).map Sight.answer := by
  have hl := reaches_looped srv (srv.loop.turns_join job)
  obtain ⟨ms, hms⟩ := exists_play_of_reaches h hl.steps
  have hending : (srv.loop.join job).2.ending? job = some (.reported report) :=
    EventLoop.ending?_of_join hjoin
  have htake : Server.perform { srv with loop := (srv.loop.join job).2 } k .take
      = (.joined (some report), (srv.join r job).2) := by
    show onSink _ k _ = _
    unfold onSink
    have hr' : request? { srv with loop := (srv.loop.join job).2 } k = some r := hr
    rw [hr']
    have hreport : report? { srv with loop := (srv.loop.join job).2 } r = some report := by
      unfold report?
      rw [hd, Option.bind_some, hending]
    dsimp only
    rw [hreport]
    rfl
  refine ⟨ms ++ [.deed k .take], ?_, ?_⟩
  · rw [play_append, hms]
    show (Server.perform _ k .take).2 = _
    rw [htake]
  · rw [sights_append, sights_deed, if_pos rfl, hms, htake, List.map_append]
    exact List.mem_append_right _ (List.mem_singleton.mpr rfl)

/-- Whatever an action does comes about by moves. What it answers to a request, that request
sees. -/
theorem exists_play_of_act (h : srv.Sound) (a : Action) : ∃ ms, (srv.play ms).2 = (srv.act a).2 ∧
    ∀ k, (heard k (a, (srv.act a).1)).toList.Sublist ((srv.sights k ms).map Sight.answer) := by
  obtain ⟨ms, hms⟩ := exists_play_of_reaches h (reaches_act srv a).steps
  have hnone : (∀ k, heard k (a, (srv.act a).1) = none) →
      ∃ ms, (srv.play ms).2 = (srv.act a).2 ∧
        ∀ k, (heard k (a, (srv.act a).1)).toList.Sublist ((srv.sights k ms).map Sight.answer) := by
    intro hn
    refine ⟨ms, hms, fun k => ?_⟩
    rw [hn k]
    exact List.nil_sublist _
  -- What is done at once is one deed. A wait is more moves, of which only the report is heard.
  cases a with
  | begin | shutdown | sleep => exact hnone fun _ => rfl
  | request n action =>
    cases hp : (Action.request n action).isPrompt with
    | true =>
      have hp' := (isPrompt_request 0 n action).trans hp
      refine ⟨[.deed n (.act action hp')], rfl, fun k => ?_⟩
      rw [heard_request k n action _ hp, sights_deed]
      by_cases hn : n = k
      · rw [if_pos hn, if_pos hn]
        exact List.Sublist.refl _
      · rw [if_neg hn]
        exact List.nil_sublist _
    | false =>
      cases action with
      | hold millis => exact hnone fun _ => rfl
      | join =>
        cases hr : srv.request? n with
        | none => exact hnone fun k => by simp [heard, act, actOn, whileDrained, hr]
        | some r =>
          cases hd : r.drain with
          | none => exact hnone fun k => by simp [heard, act, actOn, whileDrained, hr, hd]
          | some job =>
            have hact : srv.act (.request n .join) = (srv.join r job).map .joined id := by
              simp only [act, actOn, whileDrained, hr, hd]
            rw [hact] at hnone ⊢
            cases hj : (srv.join r job).1 with
            | none => exact hnone fun k => by simp [heard, hj]
            | some report =>
              obtain ⟨ms, hms, hmem⟩ := exists_play_of_join h hr hd hj
              refine ⟨ms, hms, fun k => ?_⟩
              show (heard k (_, .joined (srv.join r job).1)).toList.Sublist _
              rw [hj, heard]
              by_cases hn : n = k
              · rw [if_pos hn, ← hn]
                exact List.singleton_sublist.mpr hmem
              · rw [if_neg hn]
                exact List.nil_sublist _
      | _ => cases hp

/-- Every run of actions comes about by moves, and what it answers to a request, that request
sees, in the same order. -/
theorem exists_play_of_run (h : srv.Sound) (actions : List Action) :
    ∃ ms, (srv.play ms).2 = (srv.run actions).2 ∧
      ∀ k, ((actions.zip (srv.run actions).1).filterMap (heard k)).Sublist
        ((srv.sights k ms).map Sight.answer) := by
  induction actions generalizing srv with
  | nil => exact ⟨[], rfl, fun k => List.nil_sublist _⟩
  | cons a actions ih =>
    obtain ⟨ms, hms, hsub⟩ := exists_play_of_act h a
    have hsound : (srv.act a).2.Sound := sound_of_reaches h (reaches_act srv a).steps
    obtain ⟨ms', hms', hsub'⟩ := ih hsound
    refine ⟨ms ++ ms', ?_, fun k => ?_⟩
    · rw [play_append, hms, hms']
      rfl
    · have hzip : (a :: actions).zip (srv.run (a :: actions)).1
          = [(a, (srv.act a).1)] ++ actions.zip ((srv.act a).2.run actions).1 := rfl
      have hone : [(a, (srv.act a).1)].filterMap (heard k)
          = (heard k (a, (srv.act a).1)).toList := by
        cases hk : heard k (a, (srv.act a).1) <;> simp [hk]
      rw [hzip, List.filterMap_append, hone, sights_append, List.map_append, hms]
      exact (hsub k).append (hsub' k)

/-! ## What is touched -/

/-- What a server has been set up with. -/
def settings (srv : Server σ) : RuntimeConfig × Bool × Fetcher σ :=
  (srv.config, srv.observed, srv.fetcher)

/-- What has changed in a server belongs to one request. -/
structure Touches (k : Nat) (srv srv' : Server σ) : Prop where
  settings : srv'.settings = srv.settings
  fetches : ∃ ds, srv'.fetches = srv.fetcher.after srv.fetches ds
  count : srv'.requests.length = srv.requests.length
  request : ∀ n, n ≠ k → srv'.request? n = srv.request? n
  loop : EventLoop.Touches k srv.loop srv'.loop

namespace Touches

theorem loops {l : EventLoop} (h : EventLoop.Touches k srv.loop l) :
    Touches k srv { srv with loop := l } :=
  ⟨rfl, ⟨[], rfl⟩, rfl, fun _ _ => rfl, h⟩

theorem refl (k : Nat) (srv : Server σ) : Touches k srv srv :=
  loops (.refl k srv.loop)

theorem trans (h : Touches k srv srv') (h' : Touches k srv' srv'') : Touches k srv srv'' := by
  obtain ⟨ds, hds⟩ := h.fetches
  obtain ⟨ds', hds'⟩ := h'.fetches
  have hfetcher : srv'.fetcher = srv.fetcher := congrArg (·.2.2) h.settings
  refine ⟨h'.settings.trans h.settings, ⟨ds ++ ds', ?_⟩, h'.count.trans h.count, ?_,
    h.loop.trans h'.loop⟩
  · rw [hds', hds, hfetcher, Fetcher.after_append]
  · exact fun n hn => (h'.request n hn).trans (h.request n hn)

theorem record (events : List Event) : Touches k srv (srv.record events) :=
  loops (.record events)

theorem fetched (ds : List Dispatch) :
    Touches k srv { srv with fetches := srv.fetcher.after srv.fetches ds } :=
  ⟨rfl, ⟨ds, rfl⟩, rfl, fun _ _ => rfl, .refl k srv.loop⟩

theorem putRequest {r : RenderRequest} (hr : r.number = k) : Touches k srv (srv.putRequest r) := by
  refine ⟨rfl, ⟨[], rfl⟩, List.length_set, fun n hn => ?_, .refl k srv.loop⟩
  exact request?_putRequest_of_ne srv (hr ▸ hn)

theorem notify (phase : Phase) : Touches k srv (srv.notify k phase) := by
  rw [notify_eq]
  exact .record _

theorem close {r : RenderRequest} (hr : r.number = k) : Touches k srv (srv.close r).2 := by
  subst hr
  exact (loops (.putBench _)).trans (.putRequest rfl)

theorem complete {r : RenderRequest} (hr : r.number = k) : Touches k srv (srv.complete r).2 := by
  subst hr
  obtain ⟨answer, sink, hf⟩ : ∃ answer sink, r.sink.finish = (answer, sink) := ⟨_, _, rfl⟩
  cases answer with
  | error fault =>
    unfold Server.complete
    rw [hf]
    exact ((close (r := { r with sink }) rfl).trans (.record _)).trans (.notify _)
  | ok receipt =>
    obtain ⟨lines, hc⟩ := srv.complete_eq hf
    rw [hc]
    exact (loops ((EventLoop.Touches.record _).trans (.startDrain _ _))).trans (.putRequest rfl)

theorem abort {r : RenderRequest} (hr : r.number = k) : Touches k srv (srv.abort r).2 := by
  subst hr
  exact ((close rfl).trans (.record _)).trans (.notify _)

theorem prepare {r : RenderRequest} (hr : r.number = k) (input : Input) :
    Touches k srv (srv.prepare r input).2 := by
  unfold Server.prepare
  rcases r.client.prepare input with ⟨answer, events, client⟩
  exact (record events).trans (.putRequest hr)

variable {answer : Spec → Plan → Except FetchFault Response}

theorem fetch (hs : srv.fetcher.Steady answer srv.fetches) {r : RenderRequest}
    (hr : r.number = k) (input : Input) : Touches k srv (srv.fetch r input).2 := by
  obtain ⟨result, events, c, ds, hf⟩ := r.client.fetch_of_steady srv.fetcher answer input
  unfold Server.fetch
  rw [hf _ hs]
  exact ((fetched ds).trans (.record events)).trans (.putRequest hr)

theorem fetchJson (hs : srv.fetcher.Steady answer srv.fetches) {r : RenderRequest}
    (hr : r.number = k) (input : Input) : Touches k srv (srv.fetchJson r input).2 := by
  obtain ⟨result, events, c, ds, hf⟩ := r.client.fetchJson_of_steady srv.fetcher answer input
  unfold Server.fetchJson
  rw [hf _ hs]
  exact ((fetched ds).trans (.record events)).trans (.putRequest hr)

end Touches

variable {answer : Spec → Plan → Except FetchFault Response}

theorem touches_actOn (h : srv.Sound) (hs : srv.fetcher.Steady answer srv.fetches) (k : Nat)
    (action : RequestAction) (ha : (Action.request 0 action).isPrompt = true) :
    Touches k srv (srv.actOn k action).2 := by
  have hopen : ∀ act : RenderRequest → Answer × Server σ,
      (∀ r, r.number = k → Touches k srv (act r).2) → Touches k srv (srv.whileOpen k act).2 :=
    fun _ hact => holds_whileOpen (.refl k srv) fun r hr => hact r (h.number_of_open? hr)
  have hsink : ∀ act : RenderRequest → Answer × Server σ,
      (∀ r, r.number = k → Touches k srv (act r).2) → Touches k srv (srv.onSink k act).2 :=
    fun _ hact => holds_onSink (.refl k srv) fun r hr => hact r (h.number_of_request? hr)
  cases action with
  | after task => exact hopen _ fun _ _ => .loops (.putBench _)
  | register task => exact hsink _ fun _ _ => .loops (.putBench _)
  | prepare input => exact hopen _ fun r hr => holds_map _ _ (.prepare hr input)
  | fetch input => exact hopen _ fun r hr => holds_map _ _ (.fetch hs hr input)
  | fetchJson input => exact hopen _ fun r hr => holds_map _ _ (.fetchJson hs hr input)
  | log level message fields => exact hopen _ fun _ _ => .record _
  | send chunk => exact hsink _ fun r hr => holds_map (srv.send r chunk) _ (.putRequest hr)
  | finishSink => exact hsink _ fun r hr => holds_map (srv.finishSink r) _ (.putRequest hr)
  | dropReceiver => exact hsink _ fun r hr => .putRequest hr
  | complete => exact hopen _ fun r hr => holds_map _ _ (.complete hr)
  | abort => exact hopen _ fun r hr => holds_map _ _ (.abort hr)
  | drop => exact hopen _ fun r hr => .close hr
  | hold | join => cases ha

/-- A deed done with a request touches nothing else. -/
theorem touches_perform (h : srv.Sound) (hs : srv.fetcher.Steady answer srv.fetches) (k : Nat)
    (d : Deed) : Touches k srv (srv.perform k d).2 := by
  cases d with
  | act action hp => exact touches_actOn h hs k action hp
  | step now room watched =>
    refine holds_whileDraining (P := Touches k srv) (.refl k srv) ?_
    rintro j d s hj rfl _
    obtain ⟨b, turn, events, -, -, hl⟩ := srv.loop.stepDrain_eq j d s now room watched
    rw [hl]
    have hput : EventLoop.Touches d.request srv.loop
        ((srv.loop.putBench d.request b).record events) :=
      (EventLoop.Touches.putBench b).trans (.record events)
    exact .loops (hput.trans (.putJob hj rfl fun n => EventLoop.drainOf?_jobAfter_of_ne _ _))
  | cancel =>
    refine holds_whileDraining (P := Touches k srv) (.refl k srv) ?_
    rintro j d s hj rfl _
    have hput := EventLoop.Touches.putBench (k := d.request) (l := srv.loop)
      (giveUp (srv.loop.bench d.request) d.drain)
    exact .loops (hput.trans (.putJob hj rfl fun _ _ => rfl))
  | take =>
    refine holds_onSink (P := Touches k srv) (.refl k srv) fun r hr => ?_
    have hnum := h.number_of_request? hr
    exact .putRequest hnum
  | drop =>
    refine holds_onSink (P := Touches k srv) (.refl k srv) fun r _ => ?_
    split
    · exact .refl k srv
    · exact .loops (.putBench _)

/-! ## Portraits -/

/-- All that belongs to one request, without the numbers that are given to it. -/
structure Portrait where
  request : RenderRequest
  scheduler : Option Scheduler
  drains : List DrainJob
  /-- The end of its drain, if it has been handed one. -/
  ending : Option (Option Ending)

/-- The portrait of a request in a loop. -/
def sketch (l : EventLoop) (r : RenderRequest) : Portrait where
  request := { r with number := 0, drain := none }
  scheduler := l.schedulers[r.number]?
  drains := (l.drainsOf r.number).map DrainJob.core
  ending := r.drain.map l.ending?

def portrait (srv : Server σ) (k : Nat) : Option Portrait :=
  (srv.request? k).map (sketch srv.loop)

/-- What can be looked at is in the portrait. -/
def Portrait.glance (p : Portrait) : Glance where
  emitted := p.request.client.diagnostics.count
  deferred := p.scheduler.elim 0 (·.queue.tasks.length)
  ending := p.ending.join

theorem Sound.glance_eq (h : srv.Sound) (k : Nat) :
    srv.glance k = (srv.portrait k).map Portrait.glance := by
  unfold glance portrait
  cases hr : srv.request? k with
  | none => rfl
  | some r =>
    have hnum := h.number_of_request? hr
    have hqueued : srv.loop.queued k
        = (srv.loop.schedulers[r.number]?).elim 0 (·.queue.tasks.length) := by
      rw [hnum]
      unfold EventLoop.queued EventLoop.queue
      cases srv.loop.schedulers[k]? <;> rfl
    simp only [Option.map_some, Portrait.glance, sketch, hqueued, EventLoop.bind_ending?]

/-- What happens to the job of a request is told by the drains that go on. -/
theorem Attends.drainOf?_eq_none {j : Nat} {job : Job} (ha : srv.Attends k j)
    (hj : srv.loop.jobs[j]? = some job) (hn : n ≠ k) : job.drainOf? n = none := by
  obtain ⟨job', stage, accepted, hj', hshows, -⟩ := ha
  obtain rfl := Option.some.inj (hj.symm.trans hj')
  cases hshows with
  | draining hd => exact Job.drainOf?_of_ne (hd ▸ Ne.symm hn)
  | reported | cancelled => rfl

/-- What is done with a request leaves the portraits of all others as they are. -/
theorem Touches.portrait_eq (h : Touches n srv srv') (hsound : srv.Sound) (ha : srv.Attended)
    (hn : k ≠ n) : srv'.portrait k = srv.portrait k := by
  unfold portrait
  rw [h.request k hn]
  cases hr : srv.request? k with
  | none => rfl
  | some r =>
    have hnum := hsound.number_of_request? hr
    have hending : r.drain.map srv'.loop.ending? = r.drain.map srv.loop.ending? := by
      cases hd : r.drain with
      | none => rfl
      | some j =>
        obtain ⟨job, -, -, hj, -⟩ := ha k r j hr hd
        have hother := (ha k r j hr hd).drainOf?_eq_none hj (Ne.symm hn)
        have hj' := h.loop.jobs j job hj hother
        simp only [Option.map_some, EventLoop.ending?, hj, hj']
    simp only [Option.map_some, sketch, hnum, h.loop.scheduler k hn, h.loop.drains k hn, hending]

end Server
end EdgeRender
