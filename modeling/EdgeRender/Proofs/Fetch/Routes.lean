import EdgeRender.Proofs.Fetch.Handover
import Mathlib.Data.List.Induction

/-! # Responses kept in memory

A catalog is routed one URL after another, and then fetched from. A fetch is served what was
routed last to a URL of its key, however the URL was spelled. Every fetch is noted, found or
not, and changes nothing of what is served.
-/
namespace EdgeRender.Fetch

/-! ## Answers one after another -/

/-- What is answered to fetches, each in the state that the ones before have left. -/
def Fetcher.answers (f : Fetcher σ) : σ → List Dispatch → List (Except FetchFault Response)
  | _, [] => []
  | s, d :: ds => (f.fetch d.spec d.plan s).1 :: f.answers (f.fetch d.spec d.plan s).2 ds

theorem Fetcher.Steady.answers {f : Fetcher σ} {s : σ}
    {answer : Spec → Plan → Except FetchFault Response} (h : f.Steady answer s)
    (ds : List Dispatch) : f.answers s ds = ds.map fun d => answer d.spec d.plan := by
  induction ds generalizing s with
  | nil => rfl
  | cons d ds ih =>
    have hfirst : (f.fetch d.spec d.plan s).1 = answer d.spec d.plan := h [] d.spec d.plan
    have hrest : f.Steady answer (f.fetch d.spec d.plan s).2 := h.after [d]
    rw [Fetcher.answers, hfirst, ih hrest, List.map_cons]

namespace Catalog

variable {c : Catalog} {url : String} {key : Key} {fault : InputFault} {response : Response}

/-! ## Routing -/

/-- Put a response under the key of a URL, if it has one. -/
def keep (c : Catalog) (routing : String × Response) : Catalog :=
  match c.route routing.1 routing.2 with
  | .ok c => c
  | .error _ => c

/-- The catalog that routings leave, one after another. -/
def routed (routings : List (String × Response)) : Catalog :=
  routings.foldl keep {}

/-- What was routed last to a URL with this key. -/
def lastRouted? (routings : List (String × Response)) (key : Key) : Option Response :=
  (routings.filter fun (url, _) => Key.parse url = .ok key).getLast?.map Prod.snd

theorem keep_of_ok (h : Key.parse url = .ok key) : c.keep (url, response) = c.put key response := by
  simp [keep, route, h]

theorem keep_of_error (h : Key.parse url = .error fault) : c.keep (url, response) = c := by
  simp [keep, route, h]

theorem dispatched_keep (c : Catalog) (routing : String × Response) :
    (c.keep routing).dispatched = c.dispatched := by
  obtain ⟨url, response⟩ := routing
  cases h : Key.parse url with
  | ok key => rw [keep_of_ok h]; rfl
  | error fault => rw [keep_of_error h]

theorem routed_concat (routings : List (String × Response)) (routing : String × Response) :
    routed (routings ++ [routing]) = (routed routings).keep routing := by
  simp [routed]

theorem lastRouted?_concat (routings : List (String × Response)) (url : String)
    (response : Response) (key : Key) :
    lastRouted? (routings ++ [(url, response)]) key =
      if Key.parse url = .ok key then some response else lastRouted? routings key := by
  unfold lastRouted?
  rw [List.filter_append]
  by_cases h : Key.parse url = .ok key <;> simp [h]

/-- The catalog keeps what was routed last to each key. -/
theorem lookup_routed (routings : List (String × Response)) (key : Key) :
    (routed routings).routes.lookup key.text = lastRouted? routings key := by
  induction routings using List.reverseRecOn with
  | nil => rfl
  | append_singleton routings routing ih =>
    obtain ⟨url, response⟩ := routing
    rw [routed_concat, lastRouted?_concat]
    cases h : Key.parse url with
    | error fault => rw [keep_of_error h, ih, if_neg nofun]
    | ok key' =>
      rw [keep_of_ok h, lookup_put, ih]
      have hkey : key.text = key'.text ↔ (.ok key' : Except InputFault Key) = .ok key := by
        cases key
        cases key'
        simp [eq_comm]
      simp only [hkey]

theorem dispatched_routed (routings : List (String × Response)) :
    (routed routings).dispatched = [] := by
  induction routings using List.reverseRecOn with
  | nil => rfl
  | append_singleton routings routing ih => rw [routed_concat, dispatched_keep, ih]

/-- Routings whose URLs have no key might as well not have been made. -/
theorem routed_filter (routings : List (String × Response)) :
    routed (routings.filter fun (url, _) => (Key.parse url).isOk) = routed routings := by
  induction routings using List.reverseRecOn with
  | nil => rfl
  | append_singleton routings routing ih =>
    obtain ⟨url, response⟩ := routing
    rw [List.filter_append, routed_concat, ← ih]
    cases h : Key.parse url with
    | ok key =>
      have hlast : [(url, response)].filter (fun (url, _) => (Key.parse url).isOk) =
          [(url, response)] := by
        simp [h, Except.isOk, Except.toBool]
      rw [hlast, routed_concat]
    | error fault =>
      have hlast : [(url, response)].filter (fun (url, _) => (Key.parse url).isOk) = [] := by
        simp [h, Except.isOk, Except.toBool]
      rw [hlast, List.append_nil, keep_of_error h]

/-! ## Fetching -/

/-- The answer to a fetch is what was routed last to its key, or that nothing is found; the plan
of the fetch is told with it. -/
def served (routings : List (String × Response)) (d : Dispatch) : Response :=
  let found := lastRouted? routings d.spec.key
  (found.getD { status := 404, body := Text.Utf8.encode "not found".toList }).withHeader
    "Cache-Control" d.plan.header

theorem answer_routed (routings : List (String × Response)) (d : Dispatch) :
    (routed routings).answer d.spec d.plan = served routings d := by
  rw [answer, lookup_routed]
  rfl

/-- Every fetch is noted. -/
theorem dispatched_after (c : Catalog) (ds : List Dispatch) :
    (fetcher.after c ds).dispatched = c.dispatched ++ ds := by
  induction ds generalizing c with
  | nil => simp
  | cons d ds ih =>
    have hstep : fetcher.after c (d :: ds) =
        fetcher.after { c with dispatched := c.dispatched ++ [d] } ds := rfl
    rw [hstep, ih]
    simp

/-- How fetches are served from what was routed before them. -/
structure Serves (routings : List (String × Response)) (fetches : List Dispatch) : Prop where
  /-- Each is served what was routed last to its key; where there is none, nothing is found. -/
  answers : fetcher.answers (routed routings) fetches = fetches.map fun d => .ok (served routings d)
  /-- Fetches of one key differ in the header for the plan at most. -/
  alike : ∀ (i j : Nat) (d d' : Dispatch), fetches[i]? = some d → fetches[j]? = some d' →
    d.spec.key = d'.spec.key →
    ∃ r r' : Response, (fetcher.answers (routed routings) fetches)[i]? = some (.ok r) ∧
      (fetcher.answers (routed routings) fetches)[j]? = some (.ok r') ∧
      r.status = r'.status ∧ r.body = r'.body
  /-- Each is noted once, in order, with its spec and its plan. -/
  noted : (fetcher.after (routed routings) fetches).dispatched = fetches
  /-- URLs without a key leave no trace among what was routed. -/
  unroutable : routed (routings.filter fun (url, _) => (Key.parse url).isOk) = routed routings

/-- Whatever was routed, under whatever spellings, each fetch gets what was routed last to its
key, and is noted. -/
theorem serves_of_routings (routings : List (String × Response)) (fetches : List Dispatch) :
    Serves routings fetches := by
  have hanswers : fetcher.answers (routed routings) fetches =
      fetches.map fun d => .ok (served routings d) := by
    rw [(routed routings).steady_fetcher.answers]
    simp only [answer_routed]
  refine ⟨hanswers, ?_, ?_, routed_filter routings⟩
  · intro i j d d' hd hd' hkey
    refine ⟨served routings d, served routings d', ?_, ?_, ?_⟩
    · rw [hanswers, List.getElem?_map, hd]
      rfl
    · rw [hanswers, List.getElem?_map, hd']
      rfl
    · simp [served, Response.withHeader, hkey]
  · rw [dispatched_after, dispatched_routed, List.nil_append]

end Catalog
end EdgeRender.Fetch
