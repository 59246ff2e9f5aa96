import EdgeRender.Proofs.Server.Twins

/-! # Requests do not interfere

All requests of a server share its fetcher, its count of pending work, its clock and its
journal. None of that comes back to a request: what it gets to see of its moves, and what it
can look at, is as if it were the only request of a server of its own.
-/
namespace EdgeRender

open EdgeRender.Deferred EdgeRender.Fetch EdgeRender.Stream

namespace Move

/-- What is left of a move, after so many requests have begun, in a server that has only the
request `k`. There its number is zero. -/
def alone (k begun : Nat) : Move → Option Move
  | .begin context channel => if begun = k then some (.begin context channel) else none
  | .deed n d => if n = k then some (.deed 0 d) else none
  | .arrange .. | .alert _ => none

def begins : Move → Nat
  | .begin .. => 1
  | .deed .. | .arrange .. | .alert _ => 0

end Move

def aloneFrom (k : Nat) : Nat → List Move → List Move
  | _, [] => []
  | begun, m :: ms => (m.alone k begun).toList ++ aloneFrom k (begun + m.begins) ms

/-- The moves of one request, made in a server that has no other. -/
def alone (k : Nat) (ms : List Move) : List Move :=
  aloneFrom k 0 ms

namespace Server

variable {σ : Type} {srv srv' : Server σ} {k n : Nat}
  {answer : Spec → Plan → Except FetchFault Response}

/-! ## A request begins -/

/-- The portrait of a request that has just begun. -/
def newcomer (config : RuntimeConfig) (context : RequestContext) (channel : Channel) :
    Portrait :=
  let logger : Log.Logger :=
    { requestId := context.requestId, route := some context.path, format := config.logFormat }
  let client : Client :=
    { requestId := context.requestId, renderMode := context.renderMode,
      diagnostics := { mode := config.mode } }
  { request := { number := 0, context, client, logger, sink := { channel } }
    scheduler := some { logger, limit := config.taskTimeout }
    drains := []
    ending := none }

theorem portrait_begin (h : srv.Sound) (context : RequestContext) (channel : Channel) :
    (srv.begin context channel).2.portrait srv.requests.length
      = some (newcomer srv.config context channel) := by
  have hdrains : srv.loop.drainsOf srv.loop.schedulers.length = [] :=
    drainsOf_of_le h.jobs (Nat.le_of_eq h.schedulers.symm)
  unfold begin
  dsimp only
  rw [notify_eq]
  show ((srv.requests ++ [_])[srv.requests.length]?).map (sketch _) = _
  rw [List.getElem?_concat_length, Option.map_some]
  show some (Portrait.mk _ ((srv.loop.schedulers ++ [_])[srv.loop.schedulers.length]?)
    ((srv.loop.drainsOf srv.loop.schedulers.length).map DrainJob.core) none) = _
  rw [List.getElem?_concat_length, hdrains]
  rfl

/-- That another request begins does not matter. -/
theorem portrait_begin_of_ne (h : srv.Sound) (context : RequestContext) (channel : Channel)
    (hk : k ≠ srv.requests.length) :
    (srv.begin context channel).2.portrait k = srv.portrait k := by
  obtain ⟨s, r, -, -, -, -, he⟩ := srv.begin_eq context channel
  rw [he]
  show ((srv.requests ++ [r])[k]?).map (sketch _) = (srv.requests[k]?).map (sketch srv.loop)
  by_cases hlt : k < srv.requests.length
  · rw [List.getElem?_append_left hlt]
    cases hr : srv.requests[k]? with
    | none => rfl
    | some q =>
      have hnum : q.number = k := h.number_of_request? hr
      have hsched : (srv.loop.schedulers ++ [s])[q.number]? = srv.loop.schedulers[q.number]? := by
        rw [List.getElem?_append_left]
        rw [hnum, h.schedulers]
        exact hlt
      show some (Portrait.mk _ ((srv.loop.schedulers ++ [s])[q.number]?) _ _) = _
      rw [hsched]
      rfl
  · have hlen : (srv.requests ++ [r]).length ≤ k := by
      rw [List.length_append, List.length_singleton]
      omega
    rw [List.getElem?_eq_none hlen, List.getElem?_eq_none (Nat.le_of_not_lt hlt)]
    rfl

theorem number_begin (h : srv.Sound) (context : RequestContext) (channel : Channel) :
    (srv.begin context channel).1 = srv.requests.length :=
  h.schedulers

theorem dispatched_begin (h : srv.Sound) (context : RequestContext) (channel : Channel) :
    (srv.begin context channel).2.dispatched = srv.dispatched := by
  unfold dispatched
  rw [journal_begin h, Journal.dispatches_append, dispatches_told, List.append_nil]

/-- Whoever begins sees nothing of it. -/
theorem sights_begin (h : srv.Sound) (k : Nat) (context : RequestContext) (channel : Channel) :
    srv.sights k [.begin context channel]
      = if srv.requests.length = k then [⟨.done, []⟩] else [] := by
  have hsight : srv.sight .done (srv.begin context channel).2 = ⟨.done, []⟩ := by
    unfold sight
    rw [dispatched_begin h, List.drop_length]
  unfold sights
  simp only [play, move, Option.toList_some, List.append_nil, number_begin h, hsight]
  by_cases hk : srv.requests.length = k
  · simp [hk]
  · simp [hk]

/-! ## Moves and what a server keeps -/

theorem attended_of_steps (h : srv.Sound) (ha : srv.Attended)
    (hr : srv.Reaches EventLoop.Stepped srv') : srv'.Attended := by
  induction hr with
  | refl => exact ha
  | tail hab hn ih => exact attended_of_next (sound_of_reaches h hab) ih hn

theorem Kept.looped (h : Kept answer srv) {l : EventLoop}
    (hl : EventLoop.Stepped srv.loop l) : Kept answer { srv with loop := l } := by
  have hr : srv.Reaches EventLoop.Stepped { srv with loop := l } := Next.reaches (.looped hl)
  exact ⟨sound_of_reaches h.sound hr, attended_of_steps h.sound h.attended hr, h.steady⟩

theorem Kept.touched (h : Kept answer srv) (ht : Touches k srv srv')
    (hr : srv.Reaches EventLoop.Stepped srv') : Kept answer srv' := by
  refine ⟨sound_of_reaches h.sound hr, attended_of_steps h.sound h.attended hr, ?_⟩
  have hfetcher : srv'.fetcher = srv.fetcher := congrArg (·.2.2) ht.settings
  obtain ⟨ds, hds⟩ := ht.fetches
  rw [hfetcher, hds]
  exact h.steady.after ds

theorem settings_begin (srv : Server σ) (context : RequestContext) (channel : Channel) :
    (srv.begin context channel).2.settings = srv.settings := by
  obtain ⟨s, r, -, -, -, -, he⟩ := srv.begin_eq context channel
  rw [he]
  rfl

theorem Kept.begin (h : Kept answer srv) (context : RequestContext) (channel : Channel) :
    Kept answer (srv.begin context channel).2 := by
  have hr := reaches_move srv (.begin context channel)
  refine ⟨sound_of_reaches h.sound hr, attended_of_steps h.sound h.attended hr, ?_⟩
  obtain ⟨s, r, -, -, -, -, he⟩ := srv.begin_eq context channel
  rw [he]
  exact h.steady

theorem Kept.perform (h : Kept answer srv) (k : Nat) (d : Deed) :
    Kept answer (srv.perform k d).2 :=
  h.touched (touches_perform h.sound h.steady k d) (reaches_perform srv k d)

/-! ## The request by itself -/

/-- The second server has the request `k` of the first one, once that has begun, and no
other. -/
structure Mirrors (answer : Spec → Plan → Except FetchFault Response) (k : Nat)
    (srv srv' : Server σ) : Prop extends Twins answer k 0 srv srv' where
  count : srv'.requests.length = if k < srv.requests.length then 1 else 0

/-- What belongs to no request, or to another one, makes no difference. -/
theorem Mirrors.left_of {next : Server σ} (h : Mirrors answer k srv srv')
    (hkept : Kept answer next) (hset : next.settings = srv.settings)
    (hp : next.portrait k = srv.portrait k)
    (hk : k < next.requests.length ↔ k < srv.requests.length) : Mirrors answer k next srv' := by
  refine ⟨⟨hkept, h.right, h.settings.trans hset.symm, h.portrait.trans hp.symm⟩, ?_⟩
  rw [h.count]
  simp only [hk]

theorem length_begin (srv : Server σ) (context : RequestContext) (channel : Channel) :
    (srv.begin context channel).2.requests.length = srv.requests.length + 1 := by
  obtain ⟨s, r, -, -, -, -, he⟩ := srv.begin_eq context channel
  rw [he]
  exact List.length_append

theorem length_move (h : Kept answer srv) (m : Move) :
    (srv.move m).2.requests.length = srv.requests.length + m.begins := by
  cases m with
  | begin context channel => exact length_begin srv context channel
  | deed k d => exact (touches_perform h.sound h.steady k d).count
  | arrange | alert => rfl

theorem Mirrors.begin_self (h : Mirrors answer k srv srv') (hk : srv.requests.length = k)
    (context : RequestContext) (channel : Channel) :
    srv.sights k [.begin context channel] = srv'.sights 0 [.begin context channel] ∧
      Mirrors answer k (srv.begin context channel).2 (srv'.begin context channel).2 := by
  subst hk
  have hcount : srv'.requests.length = 0 := by
    rw [h.count, if_neg (Nat.lt_irrefl _)]
  have hconfig : srv'.config = srv.config := congrArg (·.1) h.settings
  have hleft := portrait_begin h.left.sound context channel
  have hright := portrait_begin h.right.sound context channel
  rw [hcount, hconfig] at hright
  refine ⟨?_, ⟨h.left.begin context channel, h.right.begin context channel, ?_, ?_⟩, ?_⟩
  · rw [sights_begin h.left.sound, sights_begin h.right.sound, if_pos rfl, if_pos hcount]
  · rw [settings_begin, settings_begin, h.settings]
  · rw [hleft, hright]
  · rw [length_begin, length_begin, hcount, if_pos (Nat.lt_succ_self _)]

theorem Mirrors.begin_other (h : Mirrors answer k srv srv') (hk : srv.requests.length ≠ k)
    (context : RequestContext) (channel : Channel) :
    srv.sights k [.begin context channel] = [] ∧
      Mirrors answer k (srv.begin context channel).2 srv' := by
  refine ⟨?_, h.left_of (h.left.begin context channel) (settings_begin srv context channel)
    (portrait_begin_of_ne h.left.sound context channel (Ne.symm hk)) ?_⟩
  · rw [sights_begin h.left.sound, if_neg hk]
  · rw [length_begin]
    omega

theorem Mirrors.deed_self (h : Mirrors answer k srv srv') (d : Deed) :
    srv.sights k [.deed k d] = srv'.sights 0 [.deed 0 d] ∧
      Mirrors answer k (srv.perform k d).2 (srv'.perform 0 d).2 := by
  have hagrees := h.agrees_perform d
  have hleft := touches_perform h.left.sound h.left.steady k d
  have hright := touches_perform h.right.sound h.right.steady 0 d
  refine ⟨?_, ⟨h.left.perform k d, h.right.perform 0 d, ?_, hagrees.portrait⟩, ?_⟩
  · unfold sights
    simp only [play, move, Option.toList_some, List.append_nil, beq_self_eq_true,
      List.filter_cons_of_pos, List.filter_nil, List.map_cons, List.map_nil]
    rw [hagrees.sight_eq]
  · rw [hleft.settings, hright.settings, h.settings]
  · rw [hleft.count, hright.count, h.count]

theorem Mirrors.deed_other (h : Mirrors answer k srv srv') (hn : n ≠ k) (d : Deed) :
    srv.sights k [.deed n d] = [] ∧ Mirrors answer k (srv.perform n d).2 srv' := by
  have htouches := touches_perform h.left.sound h.left.steady n d
  refine ⟨?_, h.left_of (h.left.perform n d) htouches.settings
    (htouches.portrait_eq h.left.sound h.left.attended (Ne.symm hn)) (by rw [htouches.count])⟩
  unfold sights
  simp [play, move, hn]

/-- A move is seen by the request whose it is as if that were the only one. -/
theorem Mirrors.move (h : Mirrors answer k srv srv') (m : Move) :
    srv.sights k [m] = srv'.sights 0 (m.alone k srv.requests.length).toList ∧
      Mirrors answer k (srv.move m).2
        (srv'.play (m.alone k srv.requests.length).toList).2 := by
  cases m with
  | begin context channel =>
    rw [Move.alone]
    by_cases hk : srv.requests.length = k
    · rw [if_pos hk]
      exact h.begin_self hk context channel
    · rw [if_neg hk]
      exact h.begin_other hk context channel
  | deed n d =>
    rw [Move.alone]
    by_cases hn : n = k
    · rw [if_pos hn, hn]
      exact h.deed_self d
    · rw [if_neg hn]
      exact h.deed_other hn d
  | arrange now line credit elapsedMicros =>
    have hl : EventLoop.Stepped srv.loop _ := .arranged now line credit elapsedMicros
    exact ⟨rfl, h.left_of (h.left.looped hl) rfl rfl Iff.rfl⟩
  | alert a =>
    have hl : EventLoop.Stepped srv.loop _ := .alerted a
    exact ⟨rfl, h.left_of (h.left.looped hl) rfl rfl Iff.rfl⟩

/-- Whatever moves are made, a request sees of its own what it would see by itself. -/
theorem Mirrors.play (h : Mirrors answer k srv srv') (ms : List Move) :
    srv.sights k ms = srv'.sights 0 (aloneFrom k srv.requests.length ms) ∧
      Mirrors answer k (srv.play ms).2 (srv'.play (aloneFrom k srv.requests.length ms)).2 := by
  induction ms generalizing srv srv' with
  | nil => exact ⟨rfl, h⟩
  | cons m ms ih =>
    obtain ⟨hsight, hnext⟩ := h.move m
    obtain ⟨hsights, hlast⟩ := ih hnext
    rw [length_move h.left] at hsights hlast
    rw [aloneFrom]
    refine ⟨?_, ?_⟩
    · rw [sights_append, ← hsight, ← hsights]
      exact sights_append srv k [m] ms
    · rw [play_append]
      exact hlast

theorem IsNew.kept (h : srv.IsNew) (hs : srv.fetcher.Steady answer srv.fetches) :
    Kept answer srv :=
  ⟨h.sound, attended_of_reaches h (.refl srv), hs⟩

/-- In a new server nothing is there yet. -/
theorem IsNew.mirrors (h : srv.IsNew) (hs : srv.fetcher.Steady answer srv.fetches) (k : Nat) :
    Mirrors answer k srv srv := by
  have hnone : ∀ n, srv.portrait n = none := by
    intro n
    unfold portrait request?
    rw [h.requests]
    rfl
  refine ⟨⟨h.kept hs, h.kept hs, rfl, (hnone 0).trans (hnone k).symm⟩, ?_⟩
  rw [h.requests]
  rfl

/-- Requests do not interfere. Let any number of them begin in a new server whose fetcher is
steady, and let their deeds be done in any order, down to the single steps of their drains.
Every run of actions comes about in this way, and a request sees what the run answers to it.
What it sees - the answers to its fetches, the warnings, how many of its tasks were dropped,
the report of its drain, and the fetches handed over for it, with their plans - is what it
sees if its moves are made alone, at the same times, in a new server that is set up alike.
And at every moment it finds the same number of warnings, the same number of tasks in its
queue and the same end of its drain. -/
theorem isolated_of_isNew (hnew : srv.IsNew) (hs : srv.fetcher.Steady answer srv.fetches) :
    (∀ actions, ∃ ms, (srv.play ms).2 = (srv.run actions).2 ∧
      ∀ k, ((actions.zip (srv.run actions).1).filterMap (heard k)).Sublist
        ((srv.sights k ms).map Sight.answer)) ∧
    ∀ ms k, srv.sights k ms = srv.sights 0 (alone k ms) ∧
      (srv.play ms).2.glance k = (srv.play (alone k ms)).2.glance 0 := by
  refine ⟨exists_play_of_run hnew.sound, fun ms k => ?_⟩
  obtain ⟨hsights, hlast⟩ := (hnew.mirrors hs k).play ms
  have hzero : srv.requests.length = 0 := by
    rw [hnew.requests]
    rfl
  rw [hzero] at hsights hlast
  refine ⟨hsights, ?_⟩
  unfold alone
  rw [hlast.left.sound.glance_eq, hlast.right.sound.glance_eq]
  exact congrArg (Option.map Portrait.glance) hlast.portrait.symm

/-- Two requests fetch the same and are warned of the same conflict. The first is aborted
while the task of the second is under way. -/
def twoVisitors : List Move :=
  let context : RequestContext := { requestId := ⟨"r"⟩, method := .get, path := "/" }
  let input : Input := .plain "https://a.test/" { cache := .noStore, revalidate := some 60 }
  let step := fun now => Deed.step now allowance true
  [.begin context {}, .begin context {},
    .deed 0 (.act (.fetch input) rfl), .deed 1 (.act (.fetch input) rfl),
    .deed 0 (.act (.prepare input) rfl),
    .deed 1 (.act (.after (.make "a" none [] [.sleep 50])) rfl),
    .deed 0 (.act (.after (.make "b" none [] [])) rfl),
    .deed 1 (.act .complete rfl), .deed 1 (step 0), .deed 1 (step 0),
    .deed 0 (.act .abort rfl), .deed 1 (step 0), .arrange 50 [] 0 0, .deed 1 (step 50),
    .deed 1 (step 50), .deed 1 (step 50)]

/-- Each sees what it sees alone. Both have been warned, though of the same, and the drain of
the second has come to its end. -/
theorem isolated_twoVisitors :
    let srv := canned .development
    (∃ ms, (srv.play ms).2 = (srv.run twoRequests).2) ∧
      (∀ k, srv.sights k twoVisitors = srv.sights 0 (alone k twoVisitors)) ∧
      ((srv.play twoVisitors).2.glance 0).map (·.emitted) = some 1 ∧
      ((srv.play (alone 0 twoVisitors)).2.glance 0).map (·.emitted) = some 1 ∧
      ((srv.play twoVisitors).2.glance 1).map (fun g => (g.emitted, g.ending.isSome))
        = some (1, true) ∧
      ((srv.play (alone 1 twoVisitors)).2.glance 0).map (fun g => (g.emitted, g.ending.isSome))
        = some (1, true) := by
  intro srv
  obtain ⟨hruns, halone⟩ :=
    isolated_of_isNew (isNew_canned .development) (Catalog.steady_fetcher {})
  have hfirst : ((srv.play twoVisitors).2.glance 0).map (·.emitted) = some 1 := by
    decide +kernel
  have hsecond : ((srv.play twoVisitors).2.glance 1).map (fun g => (g.emitted, g.ending.isSome))
      = some (1, true) := by
    decide +kernel
  obtain ⟨ms, hms, -⟩ := hruns twoRequests
  refine ⟨⟨ms, hms⟩, fun k => (halone twoVisitors k).1, hfirst, ?_, hsecond, ?_⟩
  · rw [← (halone twoVisitors 0).2]
    exact hfirst
  · rw [← (halone twoVisitors 1).2]
    exact hsecond

end Server
end EdgeRender
