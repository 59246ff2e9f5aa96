import EdgeRender.Proofs.Log.Scope

/-! # Scopes of one emitter

Any number of scopes are opened from an emitter, and diagnostics are handed to them in any
order. A scope takes note of a diagnostic in one go; the lines for it are written afterwards,
one by one, and others may come in between. `shows_of_run` says what becomes of each
diagnostic and what is written for it, and that a scope does the same as it would do alone.
-/
namespace EdgeRender.Log

/-- A diagnostic that was handed to a scope: what became of it, and the lines to be written
for it. -/
structure Handed where
  scope : Nat
  diagnostic : Diagnostic
  emission : Emission
  lines : List String

structure Emitter where
  mode : RuntimeMode
  scopes : List DiagnosticScope := []
  /-- The diagnostics handed over, in the order in which their scopes took note of them. -/
  handed : List Handed := []
  /-- The lines that the sink was given, each with the number of the diagnostic that it is
  for. -/
  written : List (Nat × String) := []

namespace Emitter

inductive Step where
  | openScope
  /-- A scope takes note of a diagnostic. -/
  | hand (scope : Nat) (d : Diagnostic)
  /-- The next line for a diagnostic is written. -/
  | write (n : Nat)
  deriving DecidableEq

/-- The lines written so far for the diagnostic of a number. -/
def writtenFor (e : Emitter) (n : Nat) : List String :=
  (e.written.filter (·.1 = n)).map (·.2)

/-- The lines still to be written for it. With none left, the call for it has returned. -/
def unwritten (e : Emitter) (n : Nat) : List String :=
  ((e.handed[n]?).elim [] (·.lines)).drop (e.writtenFor n).length

def step (e : Emitter) : Step → Emitter
  | .openScope => { e with scopes := e.scopes ++ [{ mode := e.mode }] }
  | .hand k d =>
    match e.scopes[k]? with
    | none => e
    | some s =>
      let (emission, lines, s) := s.emit d
      { e with scopes := e.scopes.set k s, handed := e.handed ++ [⟨k, d, emission, lines⟩] }
  | .write n => { e with written := e.written ++ ((e.unwritten n).take 1).map (n, ·) }

def run (e : Emitter) (steps : List Step) : Emitter :=
  steps.foldl step e

end Emitter

/-- The diagnostics among those handed over that went to a scope. -/
def shownIn (k : Nat) (hs : List Handed) : List Diagnostic :=
  (hs.filter (·.scope = k)).map (·.diagnostic)

/-- What became of them. -/
def answersIn (k : Nat) (hs : List Handed) : List Emission :=
  (hs.filter (·.scope = k)).map (·.emission)

@[simp] theorem shownIn_concat (k : Nat) (hs : List Handed) (h : Handed) :
    shownIn k (hs ++ [h]) = shownIn k hs ++ if h.scope = k then [h.diagnostic] else [] := by
  by_cases hk : h.scope = k <;> simp [shownIn, hk]

@[simp] theorem answersIn_concat (k : Nat) (hs : List Handed) (h : Handed) :
    answersIn k (hs ++ [h]) = answersIn k hs ++ if h.scope = k then [h.emission] else [] := by
  by_cases hk : h.scope = k <;> simp [answersIn, hk]

namespace DiagnosticScope

/-- What becomes of diagnostics shown one after another in a scope that is alone. -/
def emissions (s : DiagnosticScope) : List Diagnostic → List Emission
  | [] => []
  | d :: ds => (s.emit d).1 :: (s.emit d).2.2.emissions ds

theorem emissions_concat (s : DiagnosticScope) (ds : List Diagnostic) (d : Diagnostic) :
    s.emissions (ds ++ [d]) = s.emissions ds ++ [((s.after ds).emit d).1] := by
  induction ds generalizing s with
  | nil => rfl
  | cons d' ds ih =>
    simp only [List.cons_append, emissions, ih, after_cons]

end DiagnosticScope

namespace Emitter

open DiagnosticScope

variable {e : Emitter}

/-- What every emitter keeps that began without scopes. -/
structure Sound (e : Emitter) : Prop where
  /-- A scope is as if what was handed to it had been shown in it alone. -/
  scopes : ∀ k s, e.scopes[k]? = some s → s = after { mode := e.mode } (shownIn k e.handed)
  /-- Nothing has been handed to scopes to come. -/
  unopened : ∀ k, e.scopes.length ≤ k → shownIn k e.handed = []
  answers : ∀ k, answersIn k e.handed = emissions { mode := e.mode } (shownIn k e.handed)
  verdicts : ∀ n h, e.handed[n]? = some h →
    h.emission = verdict e.mode (shownIn h.scope (e.handed.take n)) h.diagnostic ∧
      h.lines = h.emission.lines h.diagnostic
  /-- The lines for a diagnostic are written in their order. -/
  written : ∀ n, e.writtenFor n <+: (e.handed[n]?).elim [] (·.lines)

theorem Sound.openScope (h : e.Sound) : (e.step .openScope).Sound where
  scopes := by
    intro k s hs
    rcases Nat.lt_or_ge k e.scopes.length with hk | hk
    · rw [step, List.getElem?_append_left hk] at hs
      exact h.scopes k s hs
    · rw [step, List.getElem?_append_right hk] at hs
      obtain rfl : s = { mode := e.mode } := List.mem_singleton.mp (List.mem_of_getElem? hs)
      show _ = after { mode := e.mode } (shownIn k e.handed)
      rw [h.unopened k hk, after_nil]
  unopened := by
    intro k hk
    refine h.unopened k (Nat.le_trans ?_ hk)
    simp [step]
  answers := h.answers
  verdicts := h.verdicts
  written := h.written

/-- A scope takes note of a diagnostic: it gives the verdict, and the others are as before. -/
theorem Sound.handOver (h : e.Sound) {k : Nat} {s : DiagnosticScope} (hs : e.scopes[k]? = some s)
    (d : Diagnostic) :
    Sound { e with
      scopes := e.scopes.set k (s.emit d).2.2
      handed := e.handed ++ [⟨k, d, (s.emit d).1, (s.emit d).2.1⟩] } := by
  have hk : k < e.scopes.length := (List.getElem?_eq_some_iff.mp hs).1
  have hscope := h.scopes k s hs
  have hemit := emit_after e.mode (shownIn k e.handed) d
  rw [← hscope] at hemit
  rw [hemit]
  refine ⟨?_, ?_, ?_, ?_, ?_⟩
  · intro n t ht
    rw [shownIn_concat]
    by_cases hn : k = n
    · subst hn
      rw [List.getElem?_set_self hk] at ht
      obtain rfl := Option.some.inj ht
      simp
    · rw [List.getElem?_set_ne hn] at ht
      simpa [hn] using h.scopes n t ht
  · intro n hn
    rw [List.length_set] at hn
    have hne : k ≠ n := by omega
    simpa [hne] using h.unopened n hn
  · intro n
    rw [shownIn_concat, answersIn_concat, h.answers n]
    by_cases hn : k = n
    · subst hn
      simp only [if_true]
      rw [emissions_concat, emit_after]
    · simp [hn]
  · -- a verdict goes by what came before, so those given stand
    intro n g hg
    rcases Nat.lt_trichotomy n e.handed.length with hn | hn | hn
    · rw [List.getElem?_append_left hn] at hg
      rw [List.take_append_of_le_length (Nat.le_of_lt hn)]
      exact h.verdicts n g hg
    · subst hn
      rw [List.getElem?_concat_length] at hg
      obtain rfl := Option.some.inj hg
      rw [List.take_left]
      exact ⟨rfl, rfl⟩
    · rw [List.getElem?_eq_none (by simp; omega)] at hg
      cases hg
  · intro n
    have hw := h.written n
    rcases Nat.lt_or_ge n e.handed.length with hn | hn
    · rw [List.getElem?_append_left hn]
      exact hw
    · rw [List.getElem?_eq_none hn] at hw
      have hnone : e.writtenFor n = [] := List.prefix_nil.mp hw
      show e.writtenFor n <+: _
      rw [hnone]
      exact List.nil_prefix

theorem Sound.hand (h : e.Sound) (k : Nat) (d : Diagnostic) : (e.step (.hand k d)).Sound := by
  rw [step]
  cases hs : e.scopes[k]? with
  | none => exact h
  | some s => exact h.handOver hs d

theorem writtenFor_write (e : Emitter) (n m : Nat) :
    (e.step (.write n)).writtenFor m
      = e.writtenFor m ++ if n = m then (e.unwritten n).take 1 else [] := by
  have hnew : ∀ lines : List String, ((lines.map (n, ·)).filter (·.1 = m)).map (·.2)
      = if n = m then lines else [] := by
    intro lines
    by_cases hm : n = m <;> simp [hm, List.filter_map, Function.comp_def]
  rw [← hnew, writtenFor, step, List.filter_append, List.map_append]
  rfl

/-- What is written and what is still to be written make up the lines for a diagnostic. -/
theorem Sound.writtenFor_append_unwritten (h : e.Sound) (n : Nat) :
    e.writtenFor n ++ e.unwritten n = (e.handed[n]?).elim [] (·.lines) := by
  obtain ⟨rest, hrest⟩ := h.written n
  unfold unwritten
  rw [← hrest, List.drop_left]

theorem Sound.write (h : e.Sound) (n : Nat) : (e.step (.write n)).Sound := by
  refine ⟨h.scopes, h.unopened, h.answers, h.verdicts, ?_⟩
  intro m
  rw [writtenFor_write]
  split
  · next hm =>
    subst hm
    show _ <+: (e.handed[n]?).elim [] (·.lines)
    rw [← h.writtenFor_append_unwritten, List.prefix_append_right_inj]
    exact List.take_prefix 1 _
  · rw [List.append_nil]
    exact h.written m

theorem Sound.step (h : e.Sound) (st : Step) : (e.step st).Sound := by
  cases st with
  | openScope => exact h.openScope
  | hand k d => exact h.hand k d
  | write n => exact h.write n

theorem Sound.run (h : e.Sound) (steps : List Step) : (e.run steps).Sound := by
  induction steps generalizing e with
  | nil => exact h
  | cons st steps ih => exact ih (h.step st)

end Emitter
end EdgeRender.Log
