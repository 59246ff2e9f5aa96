import EdgeRender.Proofs.Fetch.Calls

/-! # Kinds of inputs

A request object with the options of its call says no more than a plain input does. The kind
of an input is put into the record and told to the fetcher, and nothing else is made of it:
calls with inputs in plain form are answered as if the fetcher were told that every input was
a plain one.
-/
namespace EdgeRender.Fetch

open EdgeRender.Log

/-! ## Plain forms -/

/-- The options by which a plain input says what a request object says with those of its
call. -/
def RequestLike.asOptions (r : RequestLike) (options : Options) : Options :=
  { options with
    method := some (options.method.getD r.method)
    cache := if r.cache = .unset then options.cache else r.cache }

namespace Input

/-- The plain input that says the same. -/
def plainForm : Input → Input
  | .plain url options => .plain url options
  | .request r options => .plain r.url (r.asOptions options)

variable (input : Input)

@[simp] theorem url_plainForm : input.plainForm.url = input.url := by
  cases input <;> rfl

@[simp] theorem kind_plainForm : input.plainForm.kind = .plain := by
  cases input <;> rfl

@[simp] theorem revalidate_plainForm :
    input.plainForm.options.revalidate = input.options.revalidate := by
  cases input <;> rfl

@[simp] theorem tags_plainForm : input.plainForm.options.tags = input.options.tags := by
  cases input <;> rfl

/-- The method of the call goes first. -/
@[simp] theorem method_plainForm : input.plainForm.method = input.method := by
  cases input <;> rfl

/-- The cache mode of the object goes first. -/
@[simp] theorem cache_plainForm : input.plainForm.cache = input.cache := by
  cases input with
  | plain => rfl
  | request r options =>
    show (if r.cache = .unset then options.cache else r.cache) = r.cache.or options.cache
    cases r.cache <;> rfl

end Input

/-! ## Kinds put aside -/

def Spec.ofKind (kind : InputKind) (spec : Spec) : Spec := { spec with kind }

def Dispatch.ofKind (kind : InputKind) (d : Dispatch) : Dispatch := ⟨d.spec.ofKind kind, d.plan⟩

def Prepared.ofKind (kind : InputKind) (p : Prepared) : Prepared :=
  { p with spec := p.spec.ofKind kind }

/-- The event, if every input is taken for one of the given kind. -/
def eventOfKind (kind : InputKind) : Event → Event
  | .dispatch d => .dispatch (d.ofKind kind)
  | e => e

def Reply.ofKind (kind : InputKind) : Reply α → Reply α
  | .prepared answer => .prepared (answer.map (Prepared.ofKind kind))
  | .fetched answer => .fetched answer
  | .read answer => .read answer

def Turnout.ofKind (kind : InputKind) (t : Turnout α) : Turnout α :=
  ⟨t.reply.ofKind kind, t.events.map (eventOfKind kind)⟩

variable {α σ : Type}

@[simp] theorem map_line_ofKind (kind : InputKind) (lines : List String) :
    (lines.map Event.line).map (eventOfKind kind) = lines.map .line := by
  simp [eventOfKind]

@[simp] theorem map_dispatch_ofKind (kind : InputKind) (ds : List Dispatch) :
    (ds.map Event.dispatch).map (eventOfKind kind) = (ds.map (·.ofKind kind)).map .dispatch := by
  simp [eventOfKind]

/-! ## What follows from a record -/

section Resolution

variable (kind : InputKind) (spec : Spec) (mode : RenderMode)

theorem findConflict?_ofKind : findConflict? (spec.ofKind kind) mode = findConflict? spec mode :=
  rfl

theorem detectConflict?_ofKind :
    detectConflict? (spec.ofKind kind) mode = detectConflict? spec mode := rfl

theorem planCache_ofKind : planCache (spec.ofKind kind) mode = planCache spec mode := rfl

theorem resolve_ofKind : resolve (spec.ofKind kind) mode = resolve spec mode := rfl

end Resolution

namespace Input

variable (input : Input) (mode : RenderMode)

/-- The records differ in the kind, if there are any. -/
theorem normalize_plainForm :
    normalize input.plainForm = (normalize input).map (Spec.ofKind .plain) := by
  unfold normalize
  rw [url_plainForm]
  cases Key.parse input.url with
  | error fault => rfl
  | ok key => simp [bind, Except.bind, pure, Except.pure, Except.map, Spec.ofKind]

theorem diagnostic?_plainForm : input.plainForm.diagnostic? mode = input.diagnostic? mode := by
  unfold diagnostic?
  rw [normalize_plainForm]
  cases normalize input <;> rfl

theorem dispatch?_plainForm :
    input.plainForm.dispatch? mode = (input.dispatch? mode).map (·.ofKind .plain) := by
  unfold dispatch?
  rw [normalize_plainForm]
  cases normalize input <;> rfl

theorem answerTo_plainForm (ask : Dispatch → Except FetchFault Response) :
    Client.answerTo mode ask input.plainForm =
      Client.answerTo mode (fun d => ask (d.ofKind .plain)) input := by
  unfold Client.answerTo
  rw [normalize_plainForm]
  cases normalize input <;> rfl

end Input

/-! ## What fetchers are told -/

namespace Fetcher

/-- The fetcher, told that every input was of the given kind. -/
def told (kind : InputKind) (f : Fetcher σ) : Fetcher σ where
  fetch spec := f.fetch (spec.ofKind kind)

theorem after_told (kind : InputKind) (f : Fetcher σ) (s : σ) (ds : List Dispatch) :
    (f.told kind).after s ds = f.after s (ds.map (·.ofKind kind)) := by
  simp only [after, List.foldl_map]
  rfl

/-- The fetcher makes nothing of the kinds of inputs: it answers and goes on in the same way if
it is told that all are plain, but for what `forget` takes away from its state. -/
def Blind (f : Fetcher σ) (forget : σ → σ) : Prop :=
  ∀ spec plan s, (f.told .plain).fetch spec plan (forget s) =
    ((f.fetch spec plan s).1, forget (f.fetch spec plan s).2)

theorem Blind.after {f : Fetcher σ} {forget : σ → σ} (h : f.Blind forget) (s : σ)
    (ds : List Dispatch) : (f.told .plain).after (forget s) ds = forget (f.after s ds) := by
  induction ds generalizing s with
  | nil => rfl
  | cons d ds ih =>
    show (f.told .plain).after ((f.told .plain).fetch d.spec d.plan (forget s)).2 ds = _
    rw [h, ih]
    rfl

/-- Resources that are out of reach are known by their keys. -/
theorem Blind.failingAt {f : Fetcher σ} {forget : σ → σ} (h : f.Blind forget)
    (faults : List (String × FetchFault)) : (f.failingAt faults).Blind forget := by
  intro spec plan s
  have hkey : (spec.ofKind .plain).key = spec.key := rfl
  simp only [told, Fetcher.failingAt, hkey]
  cases faults.lookup spec.key.text with
  | some fault => rfl
  | none => exact h spec plan s

end Fetcher

/-- The catalog, if every input so far is taken for one of the given kind. -/
def Catalog.ofKind (kind : InputKind) (c : Catalog) : Catalog :=
  { c with dispatched := c.dispatched.map (·.ofKind kind) }

/-- What is kept in memory is found by its key. -/
theorem Catalog.blind_fetcher : Catalog.fetcher.Blind (Catalog.ofKind .plain) := by
  intro spec plan c
  simp [Fetcher.told, fetcher, ofKind, Dispatch.ofKind, answer, Spec.ofKind]

/-! ## Calls with inputs in plain form -/

namespace Call

/-- The call with its input in plain form. -/
def plainForm : Call α → Call α
  | .prepare input => .prepare input.plainForm
  | .fetch input => .fetch input.plainForm
  | .fetchAs read input => .fetchAs read input.plainForm

@[simp] theorem input_plainForm (call : Call α) : call.plainForm.input = call.input.plainForm := by
  cases call <;> rfl

theorem dispatch?_plainForm (call : Call α) (mode : RenderMode) :
    call.plainForm.dispatch? mode = (call.dispatch? mode).map (·.ofKind .plain) := by
  cases call with
  | prepare => rfl
  | fetch input => exact input.dispatch?_plainForm mode
  | fetchAs read input => exact input.dispatch?_plainForm mode

end Call

theorem handedOver_plainForm (mode : RenderMode) (calls : List (Call α)) :
    handedOver mode (calls.map Call.plainForm) = (handedOver mode calls).map (·.ofKind .plain) := by
  simp only [handedOver, List.filterMap_map, List.map_filterMap, Function.comp_def,
    Call.dispatch?_plainForm]

theorem warnings_plainForm (mode : RenderMode) (calls : List (Call α)) :
    warnings mode (calls.map Call.plainForm) = warnings mode calls := by
  simp only [warnings, List.map_map, Function.comp_def, Call.input_plainForm,
    Input.diagnostic?_plainForm]

namespace Client

variable (c : Client) (f : Fetcher σ) (s : σ) (input : Input)

/-- What is seen when a fetch is made ready is lines. -/
theorem prepare_events_ofKind (kind : InputKind) :
    (c.prepare input).2.1.map (eventOfKind kind) = (c.prepare input).2.1 := by
  simp only [prepare_eq, map_line_ofKind]

theorem prepare_plainForm :
    c.prepare input.plainForm =
      let own := c.prepare input
      (own.1.map (Prepared.ofKind .plain), own.2) := by
  simp only [prepare_eq, Input.normalize_plainForm, Input.diagnostic?_plainForm]
  cases normalize input <;> simp [Except.map, Prepared.ofKind, resolve_ofKind]

/-- The fetcher is told of another kind, and nothing else is different. -/
theorem fetch_plainForm :
    c.fetch f input.plainForm s =
      let own := c.fetch (f.told .plain) input s
      (own.1, own.2.1.map (eventOfKind .plain), own.2.2) := by
  have hhanded : (input.plainForm.dispatch? c.renderMode).toList
      = (input.dispatch? c.renderMode).toList.map (·.ofKind .plain) := by
    rw [Input.dispatch?_plainForm]
    cases input.dispatch? c.renderMode <;> rfl
  rw [fetch_eq, fetch_eq, prepare_plainForm, Input.answerTo_plainForm, hhanded]
  simp only [List.map_append, prepare_events_ofKind, map_dispatch_ofKind, Fetcher.after_told]
  rfl

theorem serve_plainForm (call : Call α) :
    c.serve f s call.plainForm =
      let own := c.serve (f.told .plain) s call
      (own.1.ofKind .plain, own.2) := by
  cases call with
  | prepare input =>
    simp only [Call.plainForm, serve, prepare_plainForm, Turnout.ofKind, Reply.ofKind,
      prepare_events_ofKind]
  | fetch input => simp only [Call.plainForm, serve, fetch_plainForm, Turnout.ofKind, Reply.ofKind]
  | fetchAs read input =>
    simp only [Call.plainForm, serve, fetchAs, fetch_plainForm, Input.url_plainForm,
      Turnout.ofKind, Reply.ofKind]

theorem serveAll_plainForm (calls : List (Call α)) :
    c.serveAll f s (calls.map Call.plainForm) =
      let own := c.serveAll (f.told .plain) s calls
      (own.1.map (·.ofKind .plain), own.2) := by
  induction calls generalizing c s with
  | nil => rfl
  | cons call calls ih => simp only [List.map_cons, serveAll_cons, serve_plainForm, ih]

/-! ### Blind fetchers -/

variable {f} {forget : σ → σ}

theorem serve_of_blind (h : f.Blind forget) (call : Call α) :
    c.serve (f.told .plain) (forget s) call =
      let own := c.serve f s call
      (own.1, own.2.1, forget own.2.2) := by
  have hanswer : (fun d : Dispatch => ((f.told .plain).fetch d.spec d.plan (forget s)).1)
      = fun d => (f.fetch d.spec d.plan s).1 := by
    funext d
    rw [h]
  rw [serve_eq, serve_eq]
  simp only [hanswer, h.after]

theorem serveAll_of_blind (h : f.Blind forget) (calls : List (Call α)) :
    c.serveAll (f.told .plain) (forget s) calls =
      let own := c.serveAll f s calls
      (own.1, own.2.1, forget own.2.2) := by
  induction calls generalizing c s with
  | nil => rfl
  | cons call calls ih => simp only [serveAll_cons, serve_of_blind _ _ h, ih]

/-- Calls that have the same plain forms come out alike. -/
theorem serveAll_sameForm (h : f.Blind forget) {s s' : σ} (hs : forget s' = forget s)
    {calls calls' : List (Call α)}
    (hcalls : calls'.map Call.plainForm = calls.map Call.plainForm) :
    (c.serveAll f s' calls').1.map (·.ofKind .plain)
        = (c.serveAll f s calls).1.map (·.ofKind .plain) ∧
      (c.serveAll f s' calls').2.1 = (c.serveAll f s calls).2.1 ∧
      forget (c.serveAll f s' calls').2.2 = forget (c.serveAll f s calls).2.2 := by
  have hplain := c.serveAll_plainForm f (forget s) calls
  rw [← hs, ← hcalls, c.serveAll_plainForm f (forget s') calls', serveAll_of_blind c s' h, hs,
    serveAll_of_blind c s h] at hplain
  simpa only [Prod.mk.injEq] using hplain

/-- A blind fetcher gives the same answer. -/
theorem fetch_answer_plainForm (h : f.Blind forget) :
    (c.fetch f input.plainForm s).1 = (c.fetch f input s).1 := by
  have hdispatch : ∀ d : Dispatch,
      (f.fetch (d.spec.ofKind .plain) d.plan s).1 = (f.fetch d.spec d.plan s).1 := by
    intro d
    -- both are what is answered to the plain record from the forgotten state
    have hown := congrArg Prod.fst (h d.spec d.plan s)
    have hplain := congrArg Prod.fst (h (d.spec.ofKind .plain) d.plan s)
    exact hplain.symm.trans hown
  rw [fetch_eq, fetch_eq, Input.answerTo_plainForm]
  simp only [Dispatch.ofKind, hdispatch]

end Client

/-! ## The kind makes no difference -/

/-- Nothing but the kind of an input is lost when it is put in plain form. -/
structure Input.KindFree (input : Input) : Prop where
  /-- Both are refused for the same fault, or their records are the same but for the kind. -/
  record : normalize input.plainForm = (normalize input).map (Spec.ofKind .plain)
  /-- On every route both have the same conflict, plan and warning. -/
  resolution : ∀ mode,
    (normalize input.plainForm).map (fun spec => (findConflict? spec mode, planCache spec mode,
        detectConflict? spec mode, resolve spec mode))
      = (normalize input).map fun spec => (findConflict? spec mode, planCache spec mode,
          detectConflict? spec mode, resolve spec mode)
  /-- Made ready, both have the same resolution and emission, and write the same lines. -/
  prepared : ∀ c : Client,
    c.prepare input.plainForm =
      let own := c.prepare input
      (own.1.map (Prepared.ofKind .plain), own.2)
  /-- Fetched, both differ in what the fetcher is told. -/
  fetched : ∀ {σ : Type} (c : Client) (f : Fetcher σ) (s : σ),
    c.fetch f input.plainForm s =
      let own := c.fetch (f.told .plain) input s
      (own.1, own.2.1.map (eventOfKind .plain), own.2.2)
  /-- A fetcher that makes nothing of the kind gives both the same response. -/
  answered : ∀ {σ : Type} (c : Client) (f : Fetcher σ) (forget : σ → σ) (s : σ),
    f.Blind forget →
      (c.fetch f input.plainForm s).1 = (c.fetch f input s).1 ∧
      (c.fetchJson f input.plainForm s).1 = (c.fetchJson f input s).1

/-- How calls come out whose inputs are put in plain form. -/
structure KindFreeRun (c : Client) (f : Fetcher σ) (s : σ) (calls : List (Call α)) : Prop where
  /-- They come out as if the fetcher were told that every input is a plain one. -/
  told : c.serveAll f s (calls.map Call.plainForm) =
    let own := c.serveAll (f.told .plain) s calls
    (own.1.map (·.ofKind .plain), own.2)
  /-- Whatever the fetcher makes of that, each call writes the same lines, and the scope that is
  left is the same. -/
  lines : (c.serveAll f s (calls.map Call.plainForm)).1.map Turnout.lines
      = (c.serveAll f s calls).1.map Turnout.lines ∧
    (c.serveAll f s (calls.map Call.plainForm)).2.1 = (c.serveAll f s calls).2.1
  /-- The same fetches are handed over, but for the kind. -/
  dispatches : Journal.dispatches
      ((c.serveAll f s (calls.map Call.plainForm)).1.flatMap (·.events))
    = (Journal.dispatches ((c.serveAll f s calls).1.flatMap (·.events))).map (·.ofKind .plain)
  /-- If the fetcher makes nothing of the kind, calls that have the same plain forms have the
  same answers, from states of the fetcher that are the same but for what it was told. -/
  alike : ∀ (forget : σ → σ), f.Blind forget → ∀ s', forget s' = forget s →
    ∀ calls' : List (Call α), calls'.map Call.plainForm = calls.map Call.plainForm →
      (c.serveAll f s' calls').1.map (·.ofKind .plain)
          = (c.serveAll f s calls).1.map (·.ofKind .plain) ∧
        (c.serveAll f s' calls').2.1 = (c.serveAll f s calls).2.1 ∧
        forget (c.serveAll f s' calls').2.2 = forget (c.serveAll f s calls).2.2

theorem Input.kindFree (input : Input) : input.KindFree where
  record := input.normalize_plainForm
  resolution mode := by
    rw [input.normalize_plainForm]
    cases normalize input with
    | error fault => rfl
    | ok spec =>
      simp only [Except.map, findConflict?_ofKind, planCache_ofKind, detectConflict?_ofKind,
        resolve_ofKind]
  prepared c := c.prepare_plainForm input
  fetched c f s := c.fetch_plainForm f s input
  answered c f forget s h := by
    have hanswer := c.fetch_answer_plainForm s input h
    refine ⟨hanswer, ?_⟩
    simp only [Client.fetchJson, Client.fetchAs, hanswer, input.url_plainForm]

/-- A request object and the plain input that says the same have the same record, conflict,
plan, emission and lines, alone and in any run of calls. They have the same response from a
fetcher that makes nothing of the kind, such as one that answers from memory or fails by key. -/
theorem Client.kindFree_of_calls (c : Client) (f : Fetcher σ) (s : σ) (calls : List (Call α)) :
    (∀ input : Input, input.KindFree) ∧ KindFreeRun c f s calls ∧
      Catalog.fetcher.Blind (Catalog.ofKind .plain) ∧
      ∀ faults, (Catalog.fetcher.failingAt faults).Blind (Catalog.ofKind .plain) where
  left := Input.kindFree
  right.left :=
    { told := c.serveAll_plainForm f s calls
      lines := c.serveAll_of_warnings f s (warnings_plainForm c.renderMode calls)
      dispatches := by rw [dispatches_serveAll, dispatches_serveAll, handedOver_plainForm]
      alike := fun _ h _ hs _ hcalls => c.serveAll_sameForm h hs hcalls }
  right.right := ⟨Catalog.blind_fetcher, Catalog.blind_fetcher.failingAt⟩

end EdgeRender.Fetch
