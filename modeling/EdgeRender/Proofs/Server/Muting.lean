import EdgeRender.Proofs.Deferred.Muting
import EdgeRender.Proofs.Fetch.Calls
import EdgeRender.Proofs.Server.Projection

/-! # The mode of a server

Two servers that differ in the mode only, of which the second is in production, and for which
the clock of the log may be read differently. Whatever is done with both is answered alike,
up to what became of a warning, and the second one writes what the first one writes but the
diagnostics.
-/
namespace EdgeRender

open EdgeRender.Deferred EdgeRender.Fetch EdgeRender.Log EdgeRender.Stream

/-! ## Clients -/

namespace Fetch

/-- A fetch that is ready, whatever became of its warning. -/
def Prepared.plain (p : Prepared) : Prepared := { p with emission := none }

namespace Client

/-- What a client would be in production. -/
def muted (c : Client) : Client := { c with diagnostics := { mode := .production } }

theorem isDiagnostic_emit? (s : DiagnosticScope) (d : Option Diagnostic) :
    ∀ line ∈ (s.emit? d).2.1, isDiagnostic line = true := by
  cases d with
  | none => simp
  | some d =>
    simp only [DiagnosticScope.emit?, DiagnosticScope.emit]
    split
    · simp
    · split <;> simp

/-- In production nothing is shown. -/
theorem emit?_production (d : Option Diagnostic) :
    DiagnosticScope.emit? { mode := .production } d
      = (d.map fun _ => .suppressed, [], { mode := .production }) := by
  cases d <;> rfl

/-- A fetch is made ready in production as in development, but for what is shown. -/
theorem prepare_muted (c : Client) (input : Input) {answer : Except InputFault Prepared}
    {events : List Event} {d : Client} (hp : c.prepare input = (answer, events, d)) :
    ∃ answer' events', answer'.map Prepared.plain = answer.map Prepared.plain ∧
      Journal.Matches events events' ∧ c.muted.prepare input = (answer', events', d.muted) := by
  have hplain : ∀ (answer : Except InputFault Spec) (a b : Option Emission),
      (answer.map fun spec => Prepared.mk spec (resolve spec c.renderMode) a).map Prepared.plain
        = (answer.map fun spec => Prepared.mk spec (resolve spec c.renderMode) b).map
          Prepared.plain := by
    intro answer a b
    cases answer <;> rfl
  have hdiagnostics := isDiagnostic_emit? c.diagnostics (input.diagnostic? c.renderMode)
  simp only [prepare_eq, Prod.mk.injEq] at hp
  rw [← hp.1, ← hp.2.1, ← hp.2.2]
  let suppressed := (input.diagnostic? c.renderMode).map fun _ => Emission.suppressed
  refine ⟨_, [], hplain _ suppressed _, .of_diagnostics ?_, ?_⟩
  · intro e he
    obtain ⟨line, hline, rfl⟩ := List.mem_map.mp he
    exact hdiagnostics line hline
  · simp only [prepare_eq, muted, emit?_production, List.map_nil]
    rfl

/-- A fetch is handed over and answered in production as in development. -/
theorem fetch_muted (c : Client) (f : Fetcher σ) (input : Input) (s : σ)
    {answer : Except FetchFault Response} {events : List Event} {d : Client} {s' : σ}
    (hf : c.fetch f input s = (answer, events, d, s')) :
    ∃ events', Journal.Matches events events' ∧
      c.muted.fetch f input s = (answer, events', d.muted, s') := by
  have hhanded : Journal.Matches ((input.dispatch? c.renderMode).toList.map .dispatch)
      ((input.dispatch? c.renderMode).toList.map .dispatch) :=
    .of_plain (by simp [Event.isDiagnostic])
  rcases hp : c.prepare input with ⟨ready, shown, client⟩
  obtain ⟨ready', shown', -, hshown, hp'⟩ := c.prepare_muted input hp
  simp only [fetch_eq, hp, Prod.mk.injEq] at hf
  rw [← hf.1, ← hf.2.1, ← hf.2.2.1, ← hf.2.2.2]
  refine ⟨_, hshown.append hhanded, ?_⟩
  simp only [fetch_eq, hp']
  rfl

end Client
end Fetch

/-! ## Servers -/

/-- What a request would be in production. -/
def RenderRequest.muted (r : RenderRequest) : RenderRequest := { r with client := r.client.muted }

/-- An answer, whatever became of a warning. -/
def Answer.plain : Answer → Answer
  | .prepared answer => .prepared (answer.map Prepared.plain)
  | answer => answer

namespace Server

variable {σ : Type} {srv srv' : Server σ}

/-- What a server would be in production, with such a loop. -/
def muted (srv : Server σ) (l : EventLoop) : Server σ :=
  { srv with
    config := { srv.config with mode := .production }
    loop := l
    requests := srv.requests.map RenderRequest.muted }

/-- A server, and what it would be in production. -/
def Matches (srv srv' : Server σ) : Prop :=
  ∃ l, srv.loop.Matches l ∧ srv' = srv.muted l

/-- The same result, and the servers still match. -/
structure SameResult {α : Type} (p q : α × Server σ) : Prop where
  result : q.1 = p.1
  server : p.2.Matches q.2

/-- The same answer, up to what became of a warning, and the servers still match. -/
structure SameAnswer (p q : Answer × Server σ) : Prop where
  answer : q.1.plain = p.1.plain
  server : p.2.Matches q.2

theorem SameResult.answered {α : Type} {p q : α × Server σ} (h : SameResult p q)
    (f : α → Answer) : SameAnswer (p.map f id) (q.map f id) :=
  ⟨congrArg (fun a => (f a).plain) h.result, h.server⟩

namespace Matches

theorem looped (h : srv.Matches srv') {l l' : EventLoop} (hl : l.Matches l') :
    Matches { srv with loop := l } { srv' with loop := l' } := by
  obtain ⟨m, -, rfl⟩ := h
  exact ⟨l', hl, rfl⟩

theorem loop (h : srv.Matches srv') : srv.loop.Matches srv'.loop := by
  obtain ⟨l, hl, rfl⟩ := h
  exact hl

theorem request?_eq (h : srv.Matches srv') (k : Nat) :
    srv'.request? k = (srv.request? k).map RenderRequest.muted := by
  obtain ⟨l, -, rfl⟩ := h
  exact List.getElem?_map

theorem observed_eq (h : srv.Matches srv') : srv'.observed = srv.observed := by
  obtain ⟨l, -, rfl⟩ := h
  rfl

theorem record (h : srv.Matches srv') {events events' : List Event}
    (he : Journal.Matches events events') : (srv.record events).Matches (srv'.record events') :=
  h.looped (h.loop.record he)

/-- What is no diagnostic is written alike. -/
theorem recordPlain (h : srv.Matches srv') {events : List Event}
    (he : ∀ e ∈ events, e.isDiagnostic = false) :
    (srv.record events).Matches (srv'.record events) :=
  h.record (.of_plain he)

theorem notify (h : srv.Matches srv') (k : Nat) (phase : Phase) :
    (srv.notify k phase).Matches (srv'.notify k phase) := by
  unfold Server.notify
  rw [h.observed_eq]
  split
  · exact h.recordPlain (by simp [Event.isDiagnostic])
  · exact h

theorem putRequest (h : srv.Matches srv') (r : RenderRequest) :
    (srv.putRequest r).Matches (srv'.putRequest r.muted) := by
  obtain ⟨l, hl, rfl⟩ := h
  refine ⟨l, hl, ?_⟩
  simp [Server.putRequest, muted, List.map_set, RenderRequest.muted]

/-- Entries of the log differ at most in the time. -/
theorem log (h : srv.Matches srv') (r : RenderRequest) (level : Level) (message : String)
    {fields fields' : List Field}
    (hf : (fieldsOf fields').map timelessField = (fieldsOf fields).map timelessField) :
    (srv.log r level message fields).Matches (srv'.log r.muted level message fields') :=
  h.record (.line? _ _ _ _ _ hf)

theorem append (h : srv.Matches srv') {l l' : EventLoop} (hl : l.Matches l')
    (r : RenderRequest) :
    Matches { srv with loop := l, requests := srv.requests ++ [r] }
      { srv' with loop := l', requests := srv'.requests ++ [r.muted] } := by
  obtain ⟨m, -, rfl⟩ := h
  refine ⟨l', hl, ?_⟩
  simp [muted]

theorem begin (h : srv.Matches srv') (context : RequestContext) (channel : Channel) :
    SameResult (srv.begin context channel) (srv'.begin context channel) := by
  have hbegun := fun s r => h.append (h.loop.addScheduler s).loop r
  obtain ⟨l, ⟨j, t, hj, rfl⟩, rfl⟩ := h
  refine ⟨rfl, ?_⟩
  unfold Server.begin
  exact (hbegun _ _).notify _ _

theorem register (h : srv.Matches srv') (k : Nat) (task : Deferred.Task) :
    (srv.register k task).Matches (srv'.register k task) :=
  h.looped (h.loop.register k task)

/-! ### Fetches -/

theorem prepare (h : srv.Matches srv') (r : RenderRequest) (input : Input) :
    SameAnswer ((srv.prepare r input).map .prepared id)
      ((srv'.prepare r.muted input).map .prepared id) := by
  rcases hp : r.client.prepare input with ⟨answer, events, client⟩
  obtain ⟨answer', events', hanswer, hevents, hp'⟩ := r.client.prepare_muted input hp
  have hready : r.muted.client.prepare input = (answer', events', client.muted) := hp'
  unfold Server.prepare
  rw [hp, hready]
  exact ⟨congrArg Answer.prepared hanswer, (h.record hevents).putRequest { r with client }⟩

theorem fetched (h : srv.Matches srv') (fetches : σ) :
    Matches { srv with fetches } { srv' with fetches } := by
  obtain ⟨l, hl, rfl⟩ := h
  exact ⟨l, hl, rfl⟩

theorem clientFetch (h : srv.Matches srv') (r : RenderRequest) (input : Input)
    {answer : Except FetchFault Response} {events : List Event} {client : Client} {fetches : σ}
    (hf : r.client.fetch srv.fetcher input srv.fetches = (answer, events, client, fetches)) :
    ∃ events', Journal.Matches events events' ∧
      r.muted.client.fetch srv'.fetcher input srv'.fetches
        = (answer, events', client.muted, fetches) := by
  obtain ⟨l, -, rfl⟩ := h
  exact r.client.fetch_muted srv.fetcher input srv.fetches hf

theorem fetch (h : srv.Matches srv') (r : RenderRequest) (input : Input) :
    SameResult (srv.fetch r input) (srv'.fetch r.muted input) := by
  unfold Server.fetch
  rcases hf : r.client.fetch srv.fetcher input srv.fetches with ⟨answer, events, client, fetches⟩
  obtain ⟨events', hevents, hf'⟩ := h.clientFetch r input hf
  rw [hf']
  exact ⟨rfl, ((h.fetched fetches).record hevents).putRequest { r with client }⟩

theorem fetchJson (h : srv.Matches srv') (r : RenderRequest) (input : Input) :
    SameResult (srv.fetchJson r input) (srv'.fetchJson r.muted input) := by
  unfold Server.fetchJson Client.fetchJson Client.fetchAs
  rcases hf : r.client.fetch srv.fetcher input srv.fetches with ⟨answer, events, client, fetches⟩
  obtain ⟨events', hevents, hf'⟩ := h.clientFetch r input hf
  rw [hf']
  exact ⟨rfl, ((h.fetched fetches).record hevents).putRequest { r with client }⟩

/-! ### Responses -/

theorem send (h : srv.Matches srv') (r : RenderRequest) (chunk : List UInt8) :
    SameResult (srv.send r chunk) (srv'.send r.muted chunk) :=
  ⟨rfl, h.putRequest { r with sink := (r.sink.sendChunk chunk).2 }⟩

theorem finishSink (h : srv.Matches srv') (r : RenderRequest) :
    SameResult (srv.finishSink r) (srv'.finishSink r.muted) :=
  ⟨rfl, h.putRequest { r with sink := r.sink.finish.2 }⟩

theorem dropReceiver (h : srv.Matches srv') (r : RenderRequest) :
    (srv.dropReceiver r).Matches (srv'.dropReceiver r.muted) :=
  h.putRequest { r with sink := { r.sink with channel := r.sink.channel.dropReceiver } }

theorem close (h : srv.Matches srv') (r : RenderRequest) :
    SameResult (srv.close r) (srv'.close r.muted) := by
  obtain ⟨hcount, hloop⟩ := h.loop.discard r.number
  exact ⟨hcount, (h.looped hloop).putRequest { r with isOpen := false }⟩

theorem abort (h : srv.Matches srv') (r : RenderRequest) :
    SameResult (srv.abort r) (srv'.abort r.muted) := by
  obtain ⟨hcount, hserver⟩ := h.close r
  refine ⟨hcount, ?_⟩
  unfold Server.abort
  dsimp only
  rw [hcount]
  exact (hserver.log r .warn "render aborted" rfl).notify _ _

/-- The fields of a response that was flushed differ in the time only. -/
theorem timeless_flushed (bytes deferred : UInt64) (d d' : Duration) :
    (fieldsOf [.number "bytes" bytes, .number "deferred_tasks" deferred,
        .duration "elapsed_ms" d']).map timelessField
      = (fieldsOf [.number "bytes" bytes, .number "deferred_tasks" deferred,
        .duration "elapsed_ms" d]).map timelessField := by
  simp only [map_timelessField_fieldsOf, List.map_cons, List.map_nil]
  simp [timelessField, Field.name, Field.value]

/-- The tasks of a request begin to be drained. -/
theorem startDrain (h : srv.Matches srv') (r : RenderRequest) :
    let started := fun (srv : Server σ) => srv.loop.startDrain r.number srv.hook ""
    Matches ({ srv with loop := (started srv).2 }.putRequest
        { r with isOpen := false, drain := some (started srv).1 })
      ({ srv' with loop := (started srv').2 }.putRequest
        { r.muted with isOpen := false, drain := some (started srv').1 }) := by
  have hhook : srv'.hook = srv.hook := by
    unfold hook
    rw [h.observed_eq]
  obtain ⟨hjob, hloop⟩ := h.loop.startDrain r.number srv.hook ""
  dsimp only
  rw [hhook, hjob]
  exact (h.looped hloop).putRequest _

theorem complete (h : srv.Matches srv') (r : RenderRequest) :
    SameResult (srv.complete r) (srv'.complete r.muted) := by
  have hsink : r.muted.sink = r.sink := rfl
  unfold Server.complete
  rw [hsink]
  rcases r.sink.finish with ⟨fault | receipt, sink⟩
  · obtain ⟨hcount, hserver⟩ := h.close { r with sink }
    have hclosed : srv'.close { r.muted with sink } = ((srv.close { r with sink }).1,
        (srv'.close (RenderRequest.muted { r with sink })).2) := Prod.ext hcount rfl
    dsimp only
    rw [hclosed]
    exact ⟨rfl, (hserver.log { r with sink } .error _ rfl).notify _ _⟩
  · have hqueued : srv'.loop.queued r.muted.number = srv.loop.queued r.number := by
      unfold EventLoop.queued EventLoop.queue
      rw [h.loop.schedulers_eq]
      rfl
    have hlogged := h.log r .info "response flushed" (timeless_flushed (.ofNat receipt.bytes)
      (.ofNat (srv.loop.queued r.number)) srv.elapsed srv'.elapsed)
    dsimp only
    rw [hqueued]
    exact ⟨rfl, (hlogged.notify r.number .flushed).startDrain { r with sink }⟩

/-! ### Waits -/

theorem hold (h : srv.Matches srv') (millis : Nat) :
    SameResult (srv.hold millis) (srv'.hold millis) := by
  have hhost : srv'.config.host = srv.config.host := by
    obtain ⟨l, -, rfl⟩ := h
    rfl
  obtain ⟨hheld, hloop⟩ := h.loop.holdTermination srv.config.host millis
  unfold Server.hold
  rw [hhost]
  exact ⟨hheld, h.looped hloop⟩

theorem join (h : srv.Matches srv') (r : RenderRequest) (job : Nat) :
    SameResult (srv.join r job) (srv'.join r.muted job) := by
  obtain ⟨hreport, hloop⟩ := h.loop.join job
  exact ⟨hreport, (h.looped hloop).putRequest { r with drain := none }⟩

theorem shutdown (h : srv.Matches srv') (millis : Nat) :
    SameResult (srv.shutdown millis) (srv'.shutdown millis) := by
  obtain ⟨hidle, hloop⟩ := h.loop.waitIdle millis
  exact ⟨hidle, h.looped hloop⟩

theorem sleep (h : srv.Matches srv') (millis : Nat) :
    (srv.sleep millis).Matches (srv'.sleep millis) :=
  h.looped (h.loop.sleep millis)

/-! ### Actions -/

theorem onSink (h : srv.Matches srv') (k : Nat) {act act' : RenderRequest → Answer × Server σ}
    (hact : ∀ r, SameAnswer (act r) (act' r.muted)) :
    SameAnswer (srv.onSink k act) (srv'.onSink k act') := by
  unfold Server.onSink
  rw [h.request?_eq]
  cases srv.request? k with
  | none => exact ⟨rfl, h⟩
  | some r => exact hact r

theorem whileOpen (h : srv.Matches srv') (k : Nat)
    {act act' : RenderRequest → Answer × Server σ}
    (hact : ∀ r, SameAnswer (act r) (act' r.muted)) :
    SameAnswer (srv.whileOpen k act) (srv'.whileOpen k act') := by
  unfold Server.whileOpen Server.open?
  rw [h.request?_eq]
  cases srv.request? k with
  | none => exact ⟨rfl, h⟩
  | some r =>
    have hopen : r.muted.isOpen = r.isOpen := rfl
    simp only [Option.map_some, Option.filter_some, hopen]
    cases r.isOpen with
    | false => exact ⟨rfl, h⟩
    | true => exact hact r

theorem whileDrained (h : srv.Matches srv') (k : Nat)
    {act act' : RenderRequest → Nat → Answer × Server σ}
    (hact : ∀ r job, SameAnswer (act r job) (act' r.muted job)) :
    SameAnswer (srv.whileDrained k act) (srv'.whileDrained k act') := by
  unfold Server.whileDrained
  rw [h.request?_eq]
  cases srv.request? k with
  | none => exact ⟨rfl, h⟩
  | some r =>
    have hdrain : r.muted.drain = r.drain := rfl
    simp only [Option.map_some, hdrain]
    cases r.drain with
    | none => exact ⟨rfl, h⟩
    | some job => exact hact r job

theorem actOn (h : srv.Matches srv') (k : Nat) (action : RequestAction) :
    SameAnswer (srv.actOn k action) (srv'.actOn k action) := by
  cases action with
  | after task => exact h.whileOpen k fun _ => ⟨rfl, h.register k task⟩
  | register task => exact h.onSink k fun _ => ⟨rfl, h.register k task⟩
  | prepare input => exact h.whileOpen k fun r => h.prepare r input
  | fetch input => exact h.whileOpen k fun r => (h.fetch r input).answered _
  | fetchJson input => exact h.whileOpen k fun r => (h.fetchJson r input).answered _
  | log level message fields => exact h.whileOpen k fun r => ⟨rfl, h.log r level message rfl⟩
  | send chunk => exact h.onSink k fun r => (h.send r chunk).answered _
  | finishSink => exact h.onSink k fun r => (h.finishSink r).answered _
  | dropReceiver => exact h.onSink k fun r => ⟨rfl, h.dropReceiver r⟩
  | complete => exact h.whileOpen k fun r => (h.complete r).answered _
  | abort => exact h.whileOpen k fun r => (h.abort r).answered _
  | drop => exact h.whileOpen k fun r => ⟨rfl, (h.close r).server⟩
  | hold millis => exact h.whileDrained k fun _ _ => (h.hold millis).answered _
  | join => exact h.whileDrained k fun r job => (h.join r job).answered _

/-- An action is answered in production as in development. -/
theorem act (h : srv.Matches srv') (a : Action) : SameAnswer (srv.act a) (srv'.act a) := by
  cases a with
  | begin context channel => exact (h.begin context channel).answered _
  | request k action => exact h.actOn k action
  | shutdown millis => exact (h.shutdown millis).answered _
  | sleep millis => exact ⟨rfl, h.sleep millis⟩

end Matches
end Server
end EdgeRender
