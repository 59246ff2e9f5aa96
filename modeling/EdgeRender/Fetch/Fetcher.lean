import EdgeRender.Fetch.Plan
import EdgeRender.Fetch.Response

/-! # Fetchers

What carries out fetches. One that keeps canned responses in memory notes every fetch,
so that a test can see what was asked of it.
-/
namespace EdgeRender.Fetch

/-- Why a fetch gives no answer, or not the one that was wanted. -/
inductive FetchFault where
  | input (fault : InputFault)
  | http (status : Nat) (url : String)
  | connection (reason : String)
  | body (fault : BodyFault)
  | request (reason : String)
  deriving Repr

def FetchFault.message : FetchFault → String
  | .input fault => "Invalid fetch input: " ++ fault.message
  | .http status url => s!"HTTP error: {status} for " ++ url
  | .connection reason => "Connection error: " ++ reason
  | .body fault => "Deserialization error: " ++ fault.message
  | .request reason => "Request error: " ++ reason

/-- Something that answers fetches, with a state of its own. -/
structure Fetcher (σ : Type) where
  fetch : Spec → Plan → σ → Except FetchFault Response × σ

structure Dispatch where
  spec : Spec
  plan : Plan
  deriving DecidableEq, Repr

/-- Canned responses by the text of their keys, and the fetches so far, in order. -/
structure Catalog where
  routes : List (String × Response) := []
  dispatched : List Dispatch := []
  deriving Repr

namespace Catalog

def put (c : Catalog) (key : Key) (response : Response) : Catalog :=
  { c with routes := (key.text, response) :: c.routes.filter (·.1 != key.text) }

theorem lookup_put (c : Catalog) (key : Key) (response : Response) (k : String) :
    (c.put key response).routes.lookup k =
      if k = key.text then some response else c.routes.lookup k := by
  unfold put
  rw [Json.lookup_member]
  split
  · rfl
  · next h =>
    induction c.routes with
    | nil => rfl
    | cons entry rest ih =>
      obtain ⟨k', r⟩ := entry
      rw [Json.lookup_member]
      by_cases h' : k' = key.text
      · have hf : ((k', r) :: rest).filter (·.1 != key.text) =
            rest.filter (·.1 != key.text) := by simp [h']
        have hk : k ≠ k' := fun e => h (e.trans h')
        rw [hf, ih, if_neg hk]
      · have hf : ((k', r) :: rest).filter (·.1 != key.text) =
            (k', r) :: rest.filter (·.1 != key.text) := by simp [h']
        rw [hf, Json.lookup_member, ih]

/-- Put a response under the key of a URL. A URL without one changes nothing. -/
def route (c : Catalog) (url : String) (response : Response) : Except InputFault Catalog := do
  pure (c.put (← Key.parse url) response)

/-- The response kept for a fetch, with the header of its plan. -/
def answer (c : Catalog) (spec : Spec) (plan : Plan) : Response :=
  ((c.routes.lookup spec.key.text).getD .notFound).withHeader "Cache-Control" plan.header

def fetcher : Fetcher Catalog where
  fetch spec plan c :=
    (.ok (c.answer spec plan), { c with dispatched := c.dispatched ++ [⟨spec, plan⟩] })

end Catalog

/-- A fetcher that never reaches the resources under certain keys. -/
def Fetcher.failingAt (faults : List (String × FetchFault)) (f : Fetcher σ) : Fetcher σ where
  fetch spec plan s :=
    match faults.lookup spec.key.text with
    | some fault => (.error fault, s)
    | none => f.fetch spec plan s

end EdgeRender.Fetch
