import EdgeRender.Log.Diagnostic
import Mathlib.Data.Finset.Card

/-! # One scope by itself

Diagnostics are shown in a scope one after another. What becomes of each follows from those
before it: in development the first of its topic is spelled out and the others are named
only, in production nothing is shown. The scope keeps the topics, each one once.
-/
namespace EdgeRender.Log

/-- What makes a warning the same as another: what it is about and what it says. -/
def Diagnostic.topic (d : Diagnostic) : String × String := (d.key, d.message)

/-- The lines that are written for a diagnostic of which this became. -/
def Emission.lines (d : Diagnostic) : Emission → List String
  | .emitted => [d.identityLine, d.warningLine]
  | .duplicate => [d.identityLine]
  | .suppressed => []

/-- What became of a warning can be told from its lines. -/
theorem Emission.lines_injective (d : Diagnostic) : Function.Injective (Emission.lines d) := by
  intro e e' h
  have hlength := congrArg List.length h
  cases e <;> cases e' <;> first | rfl | cases hlength

/-- What is to become of a diagnostic after those before it. -/
def verdict (mode : RuntimeMode) (before : List Diagnostic) (d : Diagnostic) : Emission :=
  match mode with
  | .production => .suppressed
  | .development =>
    if (before.map Diagnostic.topic).contains d.topic then .duplicate else .emitted

namespace DiagnosticScope

/-- The scope after diagnostics have been shown in it, one after another. -/
def after (s : DiagnosticScope) (ds : List Diagnostic) : DiagnosticScope :=
  ds.foldl (fun s d => (s.emit d).2.2) s

@[simp] theorem after_nil (s : DiagnosticScope) : s.after [] = s := rfl

theorem after_cons (s : DiagnosticScope) (d : Diagnostic) (ds : List Diagnostic) :
    s.after (d :: ds) = (s.emit d).2.2.after ds := rfl

theorem after_concat (s : DiagnosticScope) (ds : List Diagnostic) (d : Diagnostic) :
    s.after (ds ++ [d]) = ((s.after ds).emit d).2.2 :=
  List.foldl_concat ..

def emit? (s : DiagnosticScope) : Option Diagnostic →
    Option Emission × List String × DiagnosticScope
  | none => (none, [], s)
  | some d => ((s.emit d).1, (s.emit d).2)

@[simp] theorem emit?_none (s : DiagnosticScope) : s.emit? none = (none, [], s) := rfl

theorem after_append (s : DiagnosticScope) (ds ds' : List Diagnostic) :
    s.after (ds ++ ds') = (s.after ds).after ds' :=
  List.foldl_append

theorem scope_emit? (s : DiagnosticScope) (d : Option Diagnostic) :
    (s.emit? d).2.2 = s.after d.toList := by
  cases d <;> rfl

variable {s : DiagnosticScope} {d : Diagnostic}

theorem emit_of_production (h : s.mode = .production) : s.emit d = (.suppressed, [], s) := by
  unfold emit
  rw [h]
  rfl

theorem emit_of_mem (h : s.mode = .development) (hd : d.topic ∈ s.seen) :
    s.emit d = (.duplicate, [d.identityLine], s) := by
  unfold emit
  rw [h]
  exact (if_neg (by decide)).trans (if_pos hd)

theorem emit_of_notMem (h : s.mode = .development) (hd : d.topic ∉ s.seen) :
    s.emit d =
      (.emitted, [d.identityLine, d.warningLine], { s with seen := d.topic :: s.seen }) := by
  unfold emit
  rw [h]
  exact (if_neg (by decide)).trans (if_neg hd)

@[simp] theorem mode_emit (s : DiagnosticScope) (d : Diagnostic) :
    (s.emit d).2.2.mode = s.mode := by
  unfold emit
  split
  · rfl
  · split <;> rfl

/-- A scope keeps the topics that it had, and those of what is shown in it. -/
theorem mem_seen_emit (s : DiagnosticScope) (d : Diagnostic) (t : String × String) :
    t ∈ (s.emit d).2.2.seen ↔ t ∈ s.seen ∨ s.mode = .development ∧ t = d.topic := by
  cases hm : s.mode with
  | production => simp [emit_of_production hm]
  | development =>
    by_cases hd : d.topic ∈ s.seen
    · have hold : t = d.topic → t ∈ s.seen := fun h => h ▸ hd
      simpa [emit_of_mem hm hd] using hold
    · simp [emit_of_notMem hm hd, or_comm]

theorem nodup_seen_emit (h : s.seen.Nodup) (d : Diagnostic) : (s.emit d).2.2.seen.Nodup := by
  cases hm : s.mode with
  | production =>
    rw [emit_of_production hm]
    exact h
  | development =>
    by_cases hd : d.topic ∈ s.seen
    · rw [emit_of_mem hm hd]
      exact h
    · rw [emit_of_notMem hm hd]
      exact List.nodup_cons.mpr ⟨hd, h⟩

theorem mem_seen_after (s : DiagnosticScope) (ds : List Diagnostic) (t : String × String) :
    t ∈ (s.after ds).seen ↔
      t ∈ s.seen ∨ s.mode = .development ∧ t ∈ ds.map Diagnostic.topic := by
  induction ds generalizing s with
  | nil => simp
  | cons d ds ih =>
    rw [after_cons, ih, mem_seen_emit, mode_emit, List.map_cons, List.mem_cons, or_assoc,
      ← and_or_left]

/-- In development a warning whose topic is known is a repetition, and another is spelled out. -/
theorem emit_development (h : s.mode = .development) (d : Diagnostic) :
    (s.emit d).1 = (if d.topic ∈ s.seen then .duplicate else .emitted) ∧
      (s.emit d).2.1 = (s.emit d).1.lines d := by
  by_cases hd : d.topic ∈ s.seen
  · rw [emit_of_mem h hd, if_pos hd]
    exact ⟨rfl, rfl⟩
  · rw [emit_of_notMem h hd, if_neg hd]
    exact ⟨rfl, rfl⟩

/-- What a scope keeps of the diagnostics shown in it: their topics, if they are shown at
all, and each of them once. -/
structure Remembers (s : DiagnosticScope) (ds : List Diagnostic) : Prop where
  nodup : s.seen.Nodup
  mem_iff : ∀ t, t ∈ s.seen ↔ s.mode = .development ∧ t ∈ ds.map Diagnostic.topic

variable {ds : List Diagnostic}

theorem remembers_new (mode : RuntimeMode) : Remembers { mode } [] :=
  ⟨List.nodup_nil, by simp⟩

/-- A scope gives the verdict, and writes the lines that go with it. -/
theorem Remembers.emit_eq (h : Remembers s ds) (d : Diagnostic) :
    (s.emit d).1 = verdict s.mode ds d ∧ (s.emit d).2.1 = (verdict s.mode ds d).lines d := by
  cases hm : s.mode with
  | production =>
    rw [emit_of_production hm]
    exact ⟨rfl, rfl⟩
  | development =>
    have hseen : d.topic ∈ s.seen ↔ d.topic ∈ ds.map Diagnostic.topic := by
      rw [h.mem_iff]
      exact and_iff_right hm
    have hverdict : verdict .development ds d
        = if d.topic ∈ s.seen then .duplicate else .emitted := by
      simp only [verdict, List.contains_iff_mem, hseen]
    obtain ⟨hemission, hlines⟩ := emit_development hm d
    rw [hverdict, ← hemission]
    exact ⟨rfl, hlines⟩

/-- It keeps the topic. -/
theorem Remembers.emit (h : Remembers s ds) (d : Diagnostic) :
    Remembers (s.emit d).2.2 (ds ++ [d]) where
  nodup := nodup_seen_emit h.nodup d
  mem_iff := by
    intro t
    rw [mem_seen_emit, mode_emit, h.mem_iff, List.map_append, List.mem_append, List.map_cons,
      List.map_nil, List.mem_singleton, ← and_or_left]

theorem Remembers.after {ds' : List Diagnostic} (h : Remembers s ds) :
    Remembers (s.after ds') (ds ++ ds') := by
  induction ds' generalizing s ds with
  | nil =>
    rw [List.append_nil]
    exact h
  | cons d ds' ih =>
    have hstep := ih (h.emit d)
    rw [List.append_assoc] at hstep
    exact hstep

@[simp] theorem mode_after (s : DiagnosticScope) (ds : List Diagnostic) :
    (s.after ds).mode = s.mode := by
  induction ds generalizing s with
  | nil => rfl
  | cons d ds ih => rw [after_cons, ih, mode_emit]

theorem remembers_after (mode : RuntimeMode) (ds : List Diagnostic) :
    Remembers (after { mode } ds) ds :=
  (remembers_new mode).after

/-- What a new scope does with a diagnostic after others. -/
theorem emit_after (mode : RuntimeMode) (ds : List Diagnostic) (d : Diagnostic) :
    (after { mode } ds).emit d
      = (verdict mode ds d, (verdict mode ds d).lines d, after { mode } (ds ++ [d])) := by
  obtain ⟨hverdict, hlines⟩ := (remembers_after mode ds).emit_eq d
  rw [mode_after] at hverdict hlines
  rw [after_concat]
  exact Prod.ext hverdict (Prod.ext hlines rfl)

/-- In development a scope has counted the topics of what was shown in it, in production none. -/
theorem count_after (mode : RuntimeMode) (ds : List Diagnostic) :
    (after { mode } ds).count
      = if mode = .development then (ds.map Diagnostic.topic).toFinset.card else 0 := by
  have h := remembers_after mode ds
  have hmode : (after { mode } ds).mode = mode := mode_after _ ds
  unfold count
  rw [← List.toFinset_card_of_nodup h.nodup]
  split
  · next hm =>
    congr 1
    ext t
    rw [List.mem_toFinset, List.mem_toFinset, h.mem_iff, hmode]
    exact and_iff_right hm
  · next hm =>
    have hnone : (after { mode } ds).seen = [] := by
      rw [List.eq_nil_iff_forall_not_mem]
      intro t ht
      rw [h.mem_iff, hmode] at ht
      exact hm ht.1
    rw [hnone]
    rfl

end DiagnosticScope
end EdgeRender.Log
