import EdgeRender.Proofs.Fetch.Handover
import EdgeRender.Proofs.Journal
import EdgeRender.Proofs.Log.Scope
import Mathlib.Data.List.Basic

/-! # Calls of a client

Calls are made of a client one after another. Each is answered, and with the answer comes
what can be seen of it. `Conduct` says what the answers, the lines and the fetches handed
over are, from the inputs alone: of the calls before, only the warnings already spelled out
and the state of the fetcher make a difference.
-/
namespace EdgeRender.Fetch

open EdgeRender.Log

/-! ## What follows from an input -/

namespace Input

/-- The fetch that an input asks for on a route of the given mode. -/
def dispatch? (mode : RenderMode) (input : Input) : Option Dispatch :=
  (normalize input).toOption.map fun spec => ⟨spec, (resolve spec mode).plan⟩

/-- The warning that an input deserves on a route of the given mode. -/
def diagnostic? (mode : RenderMode) (input : Input) : Option Diagnostic :=
  (normalize input).toOption.bind fun spec => (resolve spec mode).diagnostic

variable {mode : RenderMode} {input : Input} {fault : InputFault} {spec : Spec}

theorem dispatch?_of_error (h : normalize input = .error fault) : input.dispatch? mode = none := by
  simp [dispatch?, h, Except.toOption]

theorem dispatch?_of_ok (h : normalize input = .ok spec) :
    input.dispatch? mode = some ⟨spec, (resolve spec mode).plan⟩ := by
  simp [dispatch?, h, Except.toOption]

theorem diagnostic?_of_error (h : normalize input = .error fault) :
    input.diagnostic? mode = none := by
  simp [diagnostic?, h, Except.toOption]

theorem diagnostic?_of_ok (h : normalize input = .ok spec) :
    input.diagnostic? mode = (resolve spec mode).diagnostic := by
  simp [diagnostic?, h, Except.toOption]

end Input

namespace Client

variable {c : Client} {input : Input} {fault : InputFault} {spec : Spec}

theorem prepare_of_error (h : normalize input = .error fault) :
    c.prepare input = (.error fault, [], c) := by
  unfold prepare
  rw [h]

theorem prepare_of_ok (h : normalize input = .ok spec) :
    c.prepare input =
      let shown := c.diagnostics.emit? (resolve spec c.renderMode).diagnostic
      (.ok ⟨spec, resolve spec c.renderMode, shown.1⟩, shown.2.1.map .line,
        { c with diagnostics := shown.2.2 }) := by
  unfold prepare
  rw [h]
  dsimp only
  cases (resolve spec c.renderMode).diagnostic <;> rfl

/-- The warning that an input deserves is shown in the scope of the client, and that is all
that happens when a fetch is made ready. -/
theorem prepare_eq (c : Client) (input : Input) :
    c.prepare input =
      let shown := c.diagnostics.emit? (input.diagnostic? c.renderMode)
      ((normalize input).map fun spec => ⟨spec, resolve spec c.renderMode, shown.1⟩,
        shown.2.1.map .line, { c with diagnostics := shown.2.2 }) := by
  cases h : normalize input with
  | error fault =>
    rw [prepare_of_error h, Input.diagnostic?_of_error h]
    rfl
  | ok spec =>
    rw [prepare_of_ok h, Input.diagnostic?_of_ok h]
    rfl

/-- The answer to a fetch, if `ask` is what the fetcher answers. -/
def answerTo (mode : RenderMode) (ask : Dispatch → Except FetchFault Response) (input : Input) :
    Except FetchFault Response :=
  match normalize input with
  | .error fault => .error (.input fault)
  | .ok spec => ask ⟨spec, (resolve spec mode).plan⟩

theorem answerTo_of_error {mode : RenderMode} {ask : Dispatch → Except FetchFault Response}
    (h : normalize input = .error fault) : answerTo mode ask input = .error (.input fault) := by
  simp [answerTo, h]

/-- A fetch is made ready and then handed over, if there is a record of it. -/
theorem fetch_eq (c : Client) (f : Fetcher σ) (input : Input) (s : σ) :
    c.fetch f input s =
      let handed := (input.dispatch? c.renderMode).toList
      (answerTo c.renderMode (fun d => (f.fetch d.spec d.plan s).1) input,
        (c.prepare input).2.1 ++ handed.map .dispatch, (c.prepare input).2.2,
        f.after s handed) := by
  unfold fetch answerTo
  cases h : normalize input with
  | error fault =>
    rw [prepare_of_error h, Input.dispatch?_of_error h]
    rfl
  | ok spec =>
    rw [prepare_of_ok h, Input.dispatch?_of_ok h]
    rfl

/-- What is to be made of an answer by who reads it in the given way: an answer with a status of
2xx is read, any other is a fault that tells its status. -/
def readAs (read : Response → Except BodyFault α) (url : String) (r : Response) :
    Except FetchFault α :=
  if 200 ≤ r.status ∧ r.status < 300 then (read r).mapError .body
  else .error (.http r.status url)

theorem json_eq : Response.json = fun r => (Json.parse r.body).mapError .notJson := by
  funext r
  unfold Response.json
  cases Json.parse r.body <;> rfl

theorem valueOf_eq_readAs (read : Response → Except BodyFault α) (url : String) :
    valueOf read url = readAs read url := by
  funext r
  simp only [valueOf, readAs, Response.isSuccess_iff]

end Client

/-! ## Calls -/

/-- A call of a client. Whoever wants a value says how it is read from the answer. -/
inductive Call (α : Type) where
  | prepare (input : Input)
  | fetch (input : Input)
  | fetchAs (read : Response → Except BodyFault α) (input : Input)

inductive Reply (α : Type) where
  | prepared (answer : Except InputFault Prepared)
  | fetched (answer : Except FetchFault Response)
  | read (answer : Except FetchFault α)

/-- What comes of a call: its answer, and what can be seen of it. -/
structure Turnout (α : Type) where
  reply : Reply α
  events : List Event

def Turnout.lines (t : Turnout α) : List String := Journal.lines t.events

namespace Call

variable {α : Type}

def input : Call α → Input
  | .prepare input | .fetch input | .fetchAs _ input => input

def isTaken (call : Call α) : Bool :=
  (normalize call.input).toOption.isSome

def dispatch? (mode : RenderMode) : Call α → Option Dispatch
  | .prepare _ => none
  | .fetch input | .fetchAs _ input => input.dispatch? mode

/-- The answer to a call whose input is refused. -/
def refusal (fault : InputFault) : Call α → Reply α
  | .prepare _ => .prepared (.error fault)
  | .fetch _ => .fetched (.error (.input fault))
  | .fetchAs .. => .read (.error (.input fault))

/-- The answer to a call, if `emission` has become of its warning and `ask` is what the
fetcher answers. -/
def reply (mode : RenderMode) (emission : Option Emission)
    (ask : Dispatch → Except FetchFault Response) : Call α → Reply α
  | .prepare input =>
    .prepared ((normalize input).map fun spec => ⟨spec, resolve spec mode, emission⟩)
  | .fetch input => .fetched (Client.answerTo mode ask input)
  | .fetchAs read input =>
    .read ((Client.answerTo mode ask input).bind (Client.readAs read input.url))

/-- The call that wants the answer as it is. -/
def plain : Call α → Call α
  | .prepare input => .prepare input
  | .fetch input | .fetchAs _ input => .fetch input

/-- What a call makes of the answer to its plain form. -/
def reading : Call α → Reply α → Reply α
  | .fetchAs read input, .fetched answer => .read (answer.bind (Client.readAs read input.url))
  | _, reply => reply

/-- What comes of a call, by what comes of its plain form. -/
def readFrom (call : Call α) (t : Turnout α) : Turnout α :=
  ⟨call.reading t.reply, t.events⟩

theorem dispatch?_of_error {call : Call α} {fault : InputFault} {mode : RenderMode}
    (h : normalize call.input = .error fault) : call.dispatch? mode = none := by
  cases call with
  | prepare => rfl
  | fetch => exact Input.dispatch?_of_error h
  | fetchAs => exact Input.dispatch?_of_error h

theorem reply_of_error {call : Call α} {fault : InputFault} {mode : RenderMode}
    {emission : Option Emission} {ask : Dispatch → Except FetchFault Response}
    (h : normalize call.input = .error fault) :
    call.reply mode emission ask = call.refusal fault := by
  have hanswer : Client.answerTo mode ask call.input = .error (.input fault) :=
    Client.answerTo_of_error h
  cases call with
  | prepare input =>
    have hnone : normalize input = .error fault := h
    simp [reply, refusal, hnone, Except.map]
  | fetch input => exact congrArg Reply.fetched hanswer
  | fetchAs read input =>
    have hnone : Client.answerTo mode ask input = .error (.input fault) := hanswer
    simp [reply, refusal, hnone, Except.bind]

end Call

variable {α σ : Type}

def handedOver (mode : RenderMode) (calls : List (Call α)) : List Dispatch :=
  calls.filterMap (·.dispatch? mode)

def deserved (mode : RenderMode) (calls : List (Call α)) : List Diagnostic :=
  calls.filterMap (·.input.diagnostic? mode)

@[simp] theorem handedOver_nil (mode : RenderMode) : handedOver mode ([] : List (Call α)) = [] :=
  rfl

@[simp] theorem deserved_nil (mode : RenderMode) : deserved mode ([] : List (Call α)) = [] :=
  rfl

@[simp] theorem handedOver_cons (mode : RenderMode) (call : Call α) (calls : List (Call α)) :
    handedOver mode (call :: calls) = (call.dispatch? mode).toList ++ handedOver mode calls := by
  unfold handedOver
  rw [List.filterMap_cons]
  cases call.dispatch? mode <;> rfl

@[simp] theorem deserved_cons (mode : RenderMode) (call : Call α) (calls : List (Call α)) :
    deserved mode (call :: calls)
      = (call.input.diagnostic? mode).toList ++ deserved mode calls := by
  unfold deserved
  rw [List.filterMap_cons]
  cases call.input.diagnostic? mode <;> rfl

def warnings (mode : RenderMode) (calls : List (Call α)) : List (Option Diagnostic) :=
  calls.map (·.input.diagnostic? mode)

theorem deserved_eq_warnings (mode : RenderMode) (calls : List (Call α)) :
    deserved mode calls = (warnings mode calls).filterMap id := by
  simp only [deserved, warnings, List.filterMap_map, Function.comp_def, id]

namespace Client

def serve (c : Client) (f : Fetcher σ) (s : σ) : Call α → Turnout α × Client × σ
  | .prepare input =>
    let (answer, events, c) := c.prepare input
    (⟨.prepared answer, events⟩, c, s)
  | .fetch input =>
    let (answer, events, c, s) := c.fetch f input s
    (⟨.fetched answer, events⟩, c, s)
  | .fetchAs read input =>
    let (answer, events, c, s) := c.fetchAs f read input s
    (⟨.read answer, events⟩, c, s)

def serveAll (c : Client) (f : Fetcher σ) (s : σ) : List (Call α) → List (Turnout α) × Client × σ
  | [] => ([], c, s)
  | call :: calls =>
    let (turnout, c, s) := c.serve f s call
    let (turnouts, c, s) := c.serveAll f s calls
    (turnout :: turnouts, c, s)

/-- What comes of a call follows from its input, from the warnings spelled out before and from
the state of the fetcher. -/
theorem serve_eq (c : Client) (f : Fetcher σ) (s : σ) (call : Call α) :
    c.serve f s call =
      let shown := c.diagnostics.emit? (call.input.diagnostic? c.renderMode)
      let handed := (call.dispatch? c.renderMode).toList
      (⟨call.reply c.renderMode shown.1 fun d => (f.fetch d.spec d.plan s).1,
          shown.2.1.map .line ++ handed.map .dispatch⟩,
        { c with diagnostics := shown.2.2 }, f.after s handed) := by
  cases call with
  | prepare input =>
    simp only [serve, prepare_eq, Call.reply, Call.input, Call.dispatch?, Option.toList_none,
      List.map_nil, List.append_nil]
    rfl
  | fetch input =>
    simp only [serve, fetch_eq, prepare_eq, Call.reply, Call.input, Call.dispatch?]
  | fetchAs read input =>
    simp only [serve, fetchAs, fetch_eq, prepare_eq, valueOf_eq_readAs, Call.reply, Call.input,
      Call.dispatch?]

/-- What comes of a call that is made after others, by what those deserved and handed over. -/
def turnoutAfter (c : Client) (f : Fetcher σ) (s : σ) (before : List (Call α)) (call : Call α) :
    Turnout α :=
  let shown := (c.diagnostics.after (deserved c.renderMode before)).emit?
    (call.input.diagnostic? c.renderMode)
  let s := f.after s (handedOver c.renderMode before)
  ⟨call.reply c.renderMode shown.1 fun d => (f.fetch d.spec d.plan s).1,
    shown.2.1.map .line ++ (call.dispatch? c.renderMode).toList.map .dispatch⟩

/-- A call leaves its warning in the scope, and what it hands over with the fetcher. -/
theorem serve_eq_turnoutAfter (c : Client) (f : Fetcher σ) (s : σ) (call : Call α) :
    c.serve f s call =
      (c.turnoutAfter f s [] call,
        { c with diagnostics := c.diagnostics.after (deserved c.renderMode [call]) },
        f.after s (handedOver c.renderMode [call])) := by
  rw [serve_eq]
  simp only [turnoutAfter, DiagnosticScope.scope_emit?, deserved_cons, handedOver_cons,
    deserved_nil, handedOver_nil, List.append_nil, DiagnosticScope.after_nil,
    Fetcher.after_nil]

theorem turnoutAfter_cons (c : Client) (f : Fetcher σ) (s : σ) (first : Call α)
    (before : List (Call α)) (call : Call α) :
    c.turnoutAfter f s (first :: before) call =
      (c.serve f s first).2.1.turnoutAfter f (c.serve f s first).2.2 before call := by
  rw [serve_eq_turnoutAfter]
  simp only [turnoutAfter, deserved_cons, handedOver_cons, deserved_nil, handedOver_nil,
    List.append_nil, DiagnosticScope.after_append, Fetcher.after_append]

theorem serveAll_cons (c : Client) (f : Fetcher σ) (s : σ) (call : Call α)
    (calls : List (Call α)) :
    c.serveAll f s (call :: calls) =
      let served := c.serve f s call
      let rest := served.2.1.serveAll f served.2.2 calls
      (served.1 :: rest.1, rest.2) := rfl

/-- The calls before a call make a difference only by what they deserved and handed over. -/
theorem serveAll_turnout (c : Client) (f : Fetcher σ) (s : σ) (calls : List (Call α)) (i : Nat) :
    (c.serveAll f s calls).1[i]? = calls[i]?.map (c.turnoutAfter f s (calls.take i)) := by
  induction calls generalizing c s i with
  | nil => simp [serveAll]
  | cons call calls ih =>
    rw [serveAll_cons]
    cases i with
    | zero => simp [serve_eq_turnoutAfter]
    | succ i =>
      -- the first call is one of those before, or it is what the others begin with
      have hlater : c.turnoutAfter f s (call :: calls.take i)
          = (c.serve f s call).2.1.turnoutAfter f (c.serve f s call).2.2 (calls.take i) :=
        funext fun later => c.turnoutAfter_cons f s call (calls.take i) later
      rw [List.getElem?_cons_succ, List.getElem?_cons_succ, List.take_succ_cons, hlater, ih]

/-- What calls leave behind is what they deserved and what they handed over. -/
theorem serveAll_left (c : Client) (f : Fetcher σ) (s : σ) (calls : List (Call α)) :
    (c.serveAll f s calls).2 =
      ({ c with diagnostics := c.diagnostics.after (deserved c.renderMode calls) },
        f.after s (handedOver c.renderMode calls)) := by
  induction calls generalizing c s with
  | nil => rfl
  | cons call calls ih =>
    simp only [serveAll_cons, ih, serve_eq_turnoutAfter, deserved_cons, handedOver_cons,
      deserved_nil, handedOver_nil, List.append_nil, DiagnosticScope.after_append,
      Fetcher.after_append]

/-- Calls hand their fetches over one after another, each of them once. -/
theorem dispatches_serveAll (c : Client) (f : Fetcher σ) (s : σ) (calls : List (Call α)) :
    Journal.dispatches ((c.serveAll f s calls).1.flatMap (·.events))
      = handedOver c.renderMode calls := by
  induction calls generalizing c s with
  | nil => rfl
  | cons call calls ih => simp [serveAll_cons, serve_eq, ih]

/-- The lines of a call follow from what was deserved, whatever was done about it. -/
theorem lines_serveAll (c : Client) (f : Fetcher σ) (s : σ) (calls : List (Call α)) (i : Nat) :
    ((c.serveAll f s calls).1.map Turnout.lines)[i]? =
      (warnings c.renderMode calls)[i]?.map fun warning =>
        ((c.diagnostics.after (((warnings c.renderMode calls).take i).filterMap id)).emit?
          warning).2.1 := by
  have htake : (warnings c.renderMode calls).take i = warnings c.renderMode (calls.take i) :=
    List.map_take.symm
  rw [htake, ← deserved_eq_warnings]
  simp only [warnings, List.getElem?_map, serveAll_turnout]
  cases calls[i]? with
  | none => rfl
  | some call => simp [turnoutAfter, Turnout.lines]

/-- Calls that deserve the same warnings write the same lines and leave the same scope. -/
theorem serveAll_of_warnings (c : Client) (f : Fetcher σ) (s : σ) {calls calls' : List (Call α)}
    (h : warnings c.renderMode calls' = warnings c.renderMode calls) :
    (c.serveAll f s calls').1.map Turnout.lines = (c.serveAll f s calls).1.map Turnout.lines ∧
      (c.serveAll f s calls').2.1 = (c.serveAll f s calls).2.1 := by
  constructor
  · apply List.ext_getElem?
    intro i
    rw [lines_serveAll, lines_serveAll, h]
  · rw [serveAll_left, serveAll_left, deserved_eq_warnings, h, ← deserved_eq_warnings]

/-- The lines and the scope follow from the inputs of the calls, whatever is wanted. -/
theorem serveAll_alike (c : Client) (f : Fetcher σ) (s : σ) {calls calls' : List (Call α)}
    (h : calls'.map Call.input = calls.map Call.input) :
    (c.serveAll f s calls').1.map Turnout.lines = (c.serveAll f s calls).1.map Turnout.lines ∧
      (c.serveAll f s calls').2.1 = (c.serveAll f s calls).2.1 := by
  have hinputs : ∀ calls : List (Call α),
      warnings c.renderMode calls = (calls.map Call.input).map (·.diagnostic? c.renderMode) := by
    simp [warnings]
  exact c.serveAll_of_warnings f s (by rw [hinputs, h, ← hinputs])

theorem turnoutAfter_of_error (c : Client) (f : Fetcher σ) (s : σ) (before : List (Call α))
    {call : Call α} {fault : InputFault} (h : normalize call.input = .error fault) :
    c.turnoutAfter f s before call = ⟨call.refusal fault, []⟩ := by
  simp [turnoutAfter, Input.diagnostic?_of_error h, Call.dispatch?_of_error h,
    Call.reply_of_error h]

/-- A call whose input is refused changes nothing for the others. -/
theorem serve_of_error (c : Client) (f : Fetcher σ) (s : σ) {call : Call α} {fault : InputFault}
    (h : normalize call.input = .error fault) :
    c.serve f s call = (⟨call.refusal fault, []⟩, c, s) := by
  rw [serve_eq_turnoutAfter, turnoutAfter_of_error c f s [] h]
  simp [Input.diagnostic?_of_error h, Call.dispatch?_of_error h, Fetcher.after]

theorem serveAll_filter (c : Client) (f : Fetcher σ) (s : σ) (calls : List (Call α)) :
    c.serveAll f s (calls.filter (·.isTaken)) =
      (((calls.zip (c.serveAll f s calls).1).filter (·.1.isTaken)).map (·.2),
        (c.serveAll f s calls).2) := by
  induction calls generalizing c s with
  | nil => rfl
  | cons call calls ih =>
    cases h : normalize call.input with
    | error fault =>
      have hrefused : call.isTaken = false := by simp [Call.isTaken, h, Except.toOption]
      simp [serveAll_cons, hrefused, serve_of_error c f s h, ih]
    | ok spec =>
      have htaken : call.isTaken = true := by simp [Call.isTaken, h, Except.toOption]
      simp [serveAll_cons, htaken, ih]

theorem serve_readFrom (c : Client) (f : Fetcher σ) (s : σ) (call : Call α) :
    c.serve f s call = (call.readFrom (c.serve f s call.plain).1, (c.serve f s call.plain).2) := by
  cases call <;>
    simp [serve, fetchAs, valueOf_eq_readAs, Call.plain, Call.readFrom, Call.reading]

/-- Who wants a value differs from who wants the answer only in reading it. -/
theorem serveAll_plain (c : Client) (f : Fetcher σ) (s : σ) (calls : List (Call α)) :
    c.serveAll f s calls =
      (List.zipWith Call.readFrom calls (c.serveAll f s (calls.map Call.plain)).1,
        (c.serveAll f s (calls.map Call.plain)).2) := by
  induction calls generalizing c s with
  | nil => rfl
  | cons call calls ih =>
    simp only [serveAll_cons, List.map_cons, List.zipWith_cons_cons]
    rw [serve_readFrom, ih]

end Client

/-- How calls that are made of a client come out. -/
structure Conduct (c : Client) (f : Fetcher σ) (s : σ) (calls : List (Call α)) : Prop where
  /-- A call is answered from its own input. Of the calls before it meets only the topics
  in the scope and the state of the fetcher, and its lines come before what it hands over. -/
  turnout : ∀ i, (c.serveAll f s calls).1[i]? = calls[i]?.map (c.turnoutAfter f s (calls.take i))
  /-- What is accepted of fetches is handed over in order, each once, with the spec of its
  input and the plan of that. -/
  dispatches : Journal.dispatches ((c.serveAll f s calls).1.flatMap (·.events))
    = handedOver c.renderMode calls
  /-- The calls leave a scope that has seen what they deserved, and nothing but what was
  handed over reaches the fetcher. -/
  left : (c.serveAll f s calls).2 =
    ({ c with diagnostics := c.diagnostics.after (deserved c.renderMode calls) },
      f.after s (handedOver c.renderMode calls))
  /-- Whether a fetch is only made ready, handed over or read makes no difference to the lines
  of any call and to the scope. -/
  alike : ∀ calls' : List (Call α), calls'.map Call.input = calls.map Call.input →
    (c.serveAll f s calls').1.map Turnout.lines = (c.serveAll f s calls).1.map Turnout.lines ∧
      (c.serveAll f s calls').2.1 = (c.serveAll f s calls).2.1
  /-- An input that is refused is answered by its fault, and nothing else can be seen. -/
  refused : ∀ (i : Nat) (call : Call α) (fault : InputFault), calls[i]? = some call →
    normalize call.input = .error fault → (c.serveAll f s calls).1[i]? = some ⟨call.refusal fault, []⟩
  /-- The other calls come out as if those refused had not been made. -/
  unnoticed : c.serveAll f s (calls.filter (·.isTaken)) =
    (((calls.zip (c.serveAll f s calls).1).filter (·.1.isTaken)).map (·.2),
      (c.serveAll f s calls).2)
  /-- Who wants a value differs from who wants the answer only in reading it. -/
  read : c.serveAll f s calls =
    (List.zipWith Call.readFrom calls (c.serveAll f s (calls.map Call.plain)).1,
      (c.serveAll f s (calls.map Call.plain)).2)

/-- Every fetch that is accepted is handed over once, in order and after its lines. One that is
only made ready writes the same lines, a refused one leaves no trace, and a value is read out
of the answer at the end. Who wants any JSON value has the body parsed. -/
theorem Client.conduct_of_calls (c : Client) (f : Fetcher σ) (s : σ) (calls : List (Call α)) :
    Conduct c f s calls ∧
      ∀ input, c.fetchJson f input s =
        c.fetchAs f (fun r => (Json.parse r.body).mapError .notJson) input s where
  left :=
    { turnout := fun i => c.serveAll_turnout f s calls i
      dispatches := c.dispatches_serveAll f s calls
      left := c.serveAll_left f s calls
      alike := fun _ hinputs => c.serveAll_alike f s hinputs
      refused := by
        intro i call fault hcall hrefused
        simp [serveAll_turnout, hcall, turnoutAfter_of_error c f s _ hrefused]
      unnoticed := c.serveAll_filter f s calls
      read := c.serveAll_plain f s calls }
  right := by
    intro input
    rw [fetchJson, json_eq]

end EdgeRender.Fetch
