import EdgeRender.Fetch.Client

/-! # Fetches handed over

The fetches that a fetcher has been given, one after another, and the state that they leave.
A fetcher is steady if what has been fetched makes no difference to its answers.
-/
namespace EdgeRender.Fetch

variable {σ : Type} {f : Fetcher σ} {s : σ} {answer : Spec → Plan → Except FetchFault Response}

namespace Fetcher

/-- The state that fetches leave, one after another. -/
def after (f : Fetcher σ) (s : σ) (ds : List Dispatch) : σ :=
  ds.foldl (fun s d => (f.fetch d.spec d.plan s).2) s

/-- The answer to a fetch follows from its spec and its plan, whatever has been fetched
before. -/
def Steady (f : Fetcher σ) (answer : Spec → Plan → Except FetchFault Response) (s : σ) : Prop :=
  ∀ ds spec plan, (f.fetch spec plan (f.after s ds)).1 = answer spec plan

@[simp] theorem after_nil (f : Fetcher σ) (s : σ) : f.after s [] = s := rfl

theorem after_append (f : Fetcher σ) (s : σ) (ds ds' : List Dispatch) :
    f.after s (ds ++ ds') = f.after (f.after s ds) ds' :=
  List.foldl_append

theorem Steady.after (h : f.Steady answer s) (ds : List Dispatch) :
    f.Steady answer (f.after s ds) := by
  intro ds' spec plan
  rw [← after_append]
  exact h (ds ++ ds') spec plan

end Fetcher

/-- What is kept in memory is not changed by being fetched. -/
theorem Catalog.steady_fetcher (c : Catalog) :
    Catalog.fetcher.Steady (fun spec plan => .ok (c.answer spec plan)) c := by
  have hroutes : ∀ ds, (Catalog.fetcher.after c ds).routes = c.routes := by
    intro ds
    induction ds generalizing c with
    | nil => rfl
    | cons d ds ih => exact ih { c with dispatched := c.dispatched ++ [⟨d.spec, d.plan⟩] }
  intro ds spec plan
  show Except.ok (Catalog.answer _ spec plan) = _
  unfold Catalog.answer
  rw [hroutes]

namespace Client

/-- What a fetch comes to follows from the client and the input. -/
theorem fetch_of_steady (f : Fetcher σ) (answer : Spec → Plan → Except FetchFault Response)
    (c : Client) (input : Input) : ∃ result events c' ds,
      ∀ s, f.Steady answer s → c.fetch f input s = (result, events, c', f.after s ds) := by
  unfold Client.fetch
  split
  · exact ⟨_, _, _, [], fun _ _ => rfl⟩
  · next prepared events c' _ =>
    let d : Dispatch := ⟨prepared.spec, prepared.resolution.plan⟩
    refine ⟨answer d.spec d.plan, events ++ [.dispatch d], c', [d], fun s hs => ?_⟩
    rw [← hs [] d.spec d.plan]
    rfl

theorem fetchJson_of_steady (f : Fetcher σ) (answer : Spec → Plan → Except FetchFault Response)
    (c : Client) (input : Input) : ∃ result events c' ds,
      ∀ s, f.Steady answer s → c.fetchJson f input s = (result, events, c', f.after s ds) := by
  obtain ⟨result, events, c', ds, h⟩ := c.fetch_of_steady f answer input
  refine ⟨result.bind (valueOf Response.json input.url), events, c', ds, fun s hs => ?_⟩
  unfold Client.fetchJson Client.fetchAs
  rw [h s hs]

end Client
end EdgeRender.Fetch
