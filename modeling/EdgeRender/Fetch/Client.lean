import EdgeRender.Journal

/-! # Fetch clients

The fetches of one request. A fetch is put into its record, its directives are settled,
a conflict is shown, and then it is handed to the fetcher. What can be seen of this
comes with the answer, as events.
-/
namespace EdgeRender.Fetch

open EdgeRender.Log

structure Client where
  requestId : RequestId
  renderMode : RenderMode
  diagnostics : DiagnosticScope
  deriving DecidableEq, Repr

structure Prepared where
  spec : Spec
  resolution : Resolution
  emission : Option Emission
  deriving DecidableEq, Repr

namespace Client

/-- Make a fetch ready. A conflict is shown by lines. -/
def prepare (c : Client) (input : Input) : Except InputFault Prepared × List Event × Client :=
  match normalize input with
  | .error fault => (.error fault, [], c)
  | .ok spec =>
    let resolution := resolve spec c.renderMode
    match resolution.diagnostic with
    | none => (.ok { spec, resolution, emission := none }, [], c)
    | some d =>
      let (emission, lines, diagnostics) := c.diagnostics.emit d
      (.ok { spec, resolution, emission := some emission }, lines.map .line, { c with diagnostics })

/-- Carry out a fetch: make it ready, then hand it over once. -/
def fetch (c : Client) (f : Fetcher σ) (input : Input) (s : σ) :
    Except FetchFault Response × List Event × Client × σ :=
  match c.prepare input with
  | (.error fault, events, c) => (.error (.input fault), events, c, s)
  | (.ok prepared, events, c) =>
    let plan := prepared.resolution.plan
    let (answer, s) := f.fetch prepared.spec plan s
    (answer, events ++ [.dispatch ⟨prepared.spec, plan⟩], c, s)

/-- The value that an answer holds, if it is read in the given way. Only an answer of success
has one. -/
def valueOf (read : Response → Except BodyFault α) (url : String) (r : Response) :
    Except FetchFault α :=
  if r.isSuccess then (read r).mapError .body else .error (.http r.status url)

/-- Carry out a fetch for a value that is read in the given way. -/
def fetchAs (c : Client) (f : Fetcher σ) (read : Response → Except BodyFault α) (input : Input)
    (s : σ) : Except FetchFault α × List Event × Client × σ :=
  let (answer, events, c, s) := c.fetch f input s
  (answer.bind (valueOf read input.url), events, c, s)

/-- Any JSON value is wanted. -/
def fetchJson (c : Client) (f : Fetcher σ) (input : Input) (s : σ) :
    Except FetchFault Json.Value × List Event × Client × σ :=
  c.fetchAs f Response.json input s

def description (c : Client) : String :=
  "FetchClient \x7b request_id: " ++ c.requestId.description ++ ", render_mode: " ++
    c.renderMode.description ++ ", .. \x7d"

end Client
end EdgeRender.Fetch
