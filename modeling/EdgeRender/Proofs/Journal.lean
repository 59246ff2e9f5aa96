import EdgeRender.Journal

/-! # What the journal tells

The phases reported of a request and the tasks begun for it, in the order of the
journal. Events that name no request tell nothing of it. The fetches handed over are told
without saying for which request.
-/
namespace EdgeRender

namespace Event

def request? : Event → Option Nat
  | .phase k _ | .started k _ => some k
  | .line _ | .alert _ | .dispatch _ | .note _ => none

def phaseOf? (k : Nat) : Event → Option Phase
  | .phase n p => if n = k then some p else none
  | _ => none

def startedOf? (k : Nat) : Event → Option Nat
  | .started n t => if n = k then some t else none
  | _ => none

def dispatch? : Event → Option Fetch.Dispatch
  | .dispatch d => some d
  | .line _ | .alert _ | .phase .. | .started .. | .note _ => none

end Event

namespace Journal

def phasesOf (k : Nat) (j : Journal) : List Phase := j.filterMap (Event.phaseOf? k)

def startedOf (k : Nat) (j : Journal) : List Nat := j.filterMap (Event.startedOf? k)

def dispatches (j : Journal) : List Fetch.Dispatch := j.filterMap Event.dispatch?

/-- No event names the request. -/
def Silent (k : Nat) (j : Journal) : Prop := ∀ e ∈ j, e.request? ≠ some k

@[simp] theorem phasesOf_append (k : Nat) (i j : Journal) :
    phasesOf k (i ++ j) = phasesOf k i ++ phasesOf k j :=
  List.filterMap_append

@[simp] theorem startedOf_append (k : Nat) (i j : Journal) :
    startedOf k (i ++ j) = startedOf k i ++ startedOf k j :=
  List.filterMap_append

@[simp] theorem dispatches_append (i j : Journal) :
    dispatches (i ++ j) = dispatches i ++ dispatches j :=
  List.filterMap_append

@[simp] theorem dispatches_lines (lines : List String) : dispatches (lines.map .line) = [] := by
  simp [dispatches, Event.dispatch?]

@[simp] theorem dispatches_handed (ds : List Fetch.Dispatch) :
    dispatches (ds.map .dispatch) = ds := by
  simp [dispatches, List.filterMap_map, Function.comp_def, Event.dispatch?]

@[simp] theorem lines_shown (lines : List String) : Journal.lines (lines.map .line) = lines := by
  simp [Journal.lines, List.filterMap_map, Function.comp_def, Event.line?]

@[simp] theorem lines_handed (ds : List Fetch.Dispatch) :
    Journal.lines (ds.map .dispatch) = [] := by
  simp [Journal.lines, Event.line?]

theorem phasesOf_of_silent {k : Nat} {j : Journal} (h : Silent k j) : phasesOf k j = [] := by
  apply List.filterMap_eq_nil_iff.mpr
  intro e he
  have hn := h e he
  cases e with
  | phase n p =>
    have hk : n ≠ k := fun e => hn (by rw [e]; rfl)
    exact if_neg hk
  | _ => rfl

theorem startedOf_of_silent {k : Nat} {j : Journal} (h : Silent k j) : startedOf k j = [] := by
  apply List.filterMap_eq_nil_iff.mpr
  intro e he
  have hn := h e he
  cases e with
  | started n t =>
    have hk : n ≠ k := fun e => hn (by rw [e]; rfl)
    exact if_neg hk
  | _ => rfl

theorem silent_of_nameless {j : Journal} (h : ∀ e ∈ j, e.request? = none) (k : Nat) :
    Silent k j := by
  intro e he hk
  rw [h e he] at hk
  cases hk

theorem mem_startedOf {k t : Nat} {j : Journal} :
    t ∈ startedOf k j ↔ Event.started k t ∈ j := by
  constructor
  · intro h
    obtain ⟨e, he, hk⟩ := List.mem_filterMap.mp h
    cases e with
    | started n u =>
      by_cases hn : n = k
      · simp only [Event.startedOf?, hn, if_true, Option.some.injEq] at hk
        rw [← hn, ← hk] at *
        exact he
      · simp [Event.startedOf?, hn] at hk
    | _ => cases hk
  · intro h
    exact List.mem_filterMap.mpr ⟨_, h, by simp [Event.startedOf?]⟩

end Journal
end EdgeRender
