import EdgeRender.Log.Buffer
import Mathlib.Algebra.GroupWithZero.Nat

/-! # Lines put together

A text that stops within a line is one to which a line end can be put: the lines of such
texts, written one after another, are those of each of them. A text written as one line is
read as one line just if no line feed is in it.
-/
namespace EdgeRender.Text

/-- The last character belongs to no line end. -/
def StopsInLine (s : List Char) : Prop :=
  ∃ c, s.getLast? = some c ∧ c ≠ '\n' ∧ c ≠ '\r'

namespace StopsInLine

variable {s : List Char}

theorem ne_nil (h : StopsInLine s) : s ≠ [] := by
  obtain ⟨c, hc, -⟩ := h
  intro hs
  rw [hs] at hc
  cases hc

theorem dropReturn_eq (h : StopsInLine s) : dropReturn s = s := by
  obtain ⟨c, hc, -, hreturn⟩ := h
  unfold dropReturn
  rw [hc, if_neg]
  simpa using hreturn

theorem append (h : StopsInLine s) (before : List Char) : StopsInLine (before ++ s) := by
  obtain ⟨c, hc, hend⟩ := h
  refine ⟨c, ?_, hend⟩
  rw [List.getLast?_append, hc]
  rfl

/-- A line feed in it is not the last character. -/
theorem of_append {before : List Char} (h : StopsInLine (before ++ '\n' :: s)) :
    StopsInLine s := by
  obtain ⟨c, hc, hfeed, hreturn⟩ := h
  cases s with
  | nil =>
    rw [List.getLast?_concat] at hc
    exact absurd (Option.some.inj hc).symm hfeed
  | cons d s =>
    refine ⟨c, ?_, hfeed, hreturn⟩
    simpa using hc

end StopsInLine

/-- A line feed parts a text from what follows. -/
theorem linesFrom_append (current : List Char) {s : List Char} (rest : List Char)
    (h : StopsInLine (current.reverse ++ s)) :
    linesFrom current (s ++ '\n' :: rest) = linesFrom current s ++ linesFrom [] rest := by
  -- `current` is the open line backwards: it is part of what has to stop within a line
  induction s generalizing current with
  | nil =>
    rw [List.append_nil] at h
    have hopen : current.isEmpty = false := by
      simpa using h.ne_nil
    simp [linesFrom, hopen, h.dropReturn_eq]
  | cons c s ih =>
    by_cases hc : c = '\n'
    · subst hc
      simp only [List.cons_append, linesFrom, if_true]
      rw [ih [] h.of_append]
    · simp only [List.cons_append, linesFrom, if_neg hc]
      apply ih
      simpa using h

/-- There is one line more than line feeds. -/
theorem length_linesFrom (current : List Char) {s : List Char}
    (h : StopsInLine (current.reverse ++ s)) :
    (linesFrom current s).length = s.count '\n' + 1 := by
  induction s generalizing current with
  | nil =>
    rw [List.append_nil] at h
    have hopen : current.isEmpty = false := by
      simpa using h.ne_nil
    simp [linesFrom, hopen]
  | cons c s ih =>
    by_cases hc : c = '\n'
    · subst hc
      have hrest := ih [] h.of_append
      simp [linesFrom, hrest]
    · have hrest := ih (c :: current) (by simpa using h)
      simp [linesFrom, hc, hrest]

theorem linesFrom_of_notMem (current : List Char) {s : List Char} (hs : '\n' ∉ s)
    (h : current.reverse ++ s ≠ []) : linesFrom current s = [current.reverse ++ s] := by
  induction s generalizing current with
  | nil =>
    have hopen : current.isEmpty = false := by
      simpa using h
    simp [linesFrom, hopen]
  | cons c s ih =>
    obtain ⟨hc, hrest⟩ : '\n' ≠ c ∧ '\n' ∉ s := by simpa using hs
    rw [linesFrom, if_neg (Ne.symm hc), ih (c :: current) hrest (by simp)]
    simp

theorem length_lines {s : String} (h : StopsInLine s.toList) :
    (lines s).length = s.toList.count '\n' + 1 := by
  rw [lines, List.length_map]
  exact length_linesFrom [] h

/-- A text is read as one line if there is no line feed in it. -/
theorem lines_of_notMem {s : String} (h : '\n' ∉ s.toList) (hs : s.toList ≠ []) :
    lines s = [s] := by
  rw [lines, linesFrom_of_notMem [] h hs]
  simp

/-- Texts are read as more lines than there are texts: as many more as there are line feeds in
them. -/
theorem length_flatMap_lines {texts : List String} (h : ∀ t ∈ texts, StopsInLine t.toList) :
    (texts.flatMap lines).length = texts.length + (texts.map (·.toList.count '\n')).sum := by
  induction texts with
  | nil => rfl
  | cons t texts ih =>
    have ht := length_lines (h t List.mem_cons_self)
    have hrest := ih fun t ht => h t (List.mem_cons_of_mem _ ht)
    simp only [List.flatMap_cons, List.length_append, List.length_cons, List.map_cons,
      List.sum_cons, ht, hrest]
    omega

/-- Texts are read as they were written just if no line feed is in them. -/
theorem flatMap_lines_eq_self_iff {texts : List String} (h : ∀ t ∈ texts, StopsInLine t.toList) :
    texts.flatMap lines = texts ↔ (texts.map (·.toList.count '\n')).sum = 0 := by
  constructor
  · intro hself
    have hlength := length_flatMap_lines h
    rw [hself] at hlength
    omega
  · intro hnone
    induction texts with
    | nil => rfl
    | cons t texts ih =>
      rw [List.map_cons, List.sum_cons, Nat.add_eq_zero_iff, List.count_eq_zero] at hnone
      have ht := lines_of_notMem hnone.1 (h t List.mem_cons_self).ne_nil
      have hrest := ih (fun t ht => h t (List.mem_cons_of_mem _ ht)) hnone.2
      simp [ht, hrest]

/-- What is written line by line is read as the lines of each text. -/
theorem lines_writeLines {texts : List String} (h : ∀ t ∈ texts, StopsInLine t.toList) :
    (Log.Buffer.writeLines {} texts).lines = texts.flatMap lines := by
  have hread : ∀ texts : List String, (∀ t ∈ texts, StopsInLine t.toList) →
      linesFrom [] (texts.flatMap fun t => t.toList ++ ['\n'])
        = texts.flatMap fun t => linesFrom [] t.toList := by
    intro texts h
    induction texts with
    | nil => rfl
    | cons t texts ih =>
      have ht : StopsInLine ([].reverse ++ t.toList) := h t List.mem_cons_self
      simp only [List.flatMap_cons, List.append_assoc, List.cons_append, List.nil_append]
      rw [linesFrom_append [] _ ht, ih fun t ht => h t (List.mem_cons_of_mem _ ht)]
  unfold Log.Buffer.lines lines
  rw [Log.Buffer.toList_contents_writeLines]
  simp [hread texts h, List.map_flatMap]

/-! ## Texts of any kind -/

/-- What comes behind a line feed is read as if nothing stood before it. -/
theorem linesFrom_feed (current s rest : List Char) :
    linesFrom current (s ++ '\n' :: rest) =
      linesFrom current (s ++ ['\n']) ++ linesFrom [] rest := by
  induction s generalizing current with
  | nil => simp [linesFrom]
  | cons c s ih =>
    by_cases hc : c = '\n'
    · subst hc
      simp [linesFrom, ih []]
    · simp [linesFrom, hc, ih (c :: current)]

theorem length_linesFrom_feed (current s : List Char) :
    (linesFrom current (s ++ ['\n'])).length = s.count '\n' + 1 := by
  induction s generalizing current with
  | nil => simp [linesFrom]
  | cons c s ih =>
    by_cases hc : c = '\n'
    · subst hc
      simp [linesFrom, ih []]
    · simp [linesFrom, hc, ih (c :: current)]

theorem linesFrom_feed_of_notMem (current : List Char) {s : List Char} (h : '\n' ∉ s) :
    linesFrom current (s ++ ['\n']) = [dropReturn (current.reverse ++ s)] := by
  induction s generalizing current with
  | nil => simp [linesFrom]
  | cons c s ih =>
    obtain ⟨hc, hs⟩ : '\n' ≠ c ∧ '\n' ∉ s := by simpa using h
    rw [List.cons_append, linesFrom, if_neg (Ne.symm hc), ih (c :: current) hs]
    simp

/-- The lines that a text is read as, once it is written with a line feed behind it. -/
def linesOf (text : String) : List String :=
  (linesFrom [] (text.toList ++ ['\n'])).map .ofList

/-- A text is read as one line more than there are line feeds in it. -/
theorem length_linesOf (text : String) : (linesOf text).length = text.toList.count '\n' + 1 := by
  rw [linesOf, List.length_map, length_linesFrom_feed]

/-- Without line feeds, a text is read as itself, but for a carriage return at its end. -/
theorem linesOf_of_notMem {text : String} (h : '\n' ∉ text.toList) :
    linesOf text = [.ofList (dropReturn text.toList)] := by
  rw [linesOf, linesFrom_feed_of_notMem [] h]
  rfl

theorem linesOf_eq_self {text : String} (hfeed : '\n' ∉ text.toList)
    (hreturn : '\r' ∉ text.toList) : linesOf text = [text] := by
  have hlast : ¬ text.toList.getLast? = some '\r' :=
    fun hlast => hreturn (List.mem_of_getLast? hlast)
  rw [linesOf_of_notMem hfeed, dropReturn, if_neg hlast, String.ofList_toList]

/-- A log is read as the lines of the texts that were written, one after another. -/
theorem lines_writeLines_eq (texts : List String) :
    (Log.Buffer.writeLines {} texts).lines = texts.flatMap linesOf := by
  have hread : linesFrom [] (texts.flatMap fun t => t.toList ++ ['\n']) =
      texts.flatMap fun t => linesFrom [] (t.toList ++ ['\n']) := by
    induction texts with
    | nil => rfl
    | cons t texts ih =>
      rw [List.flatMap_cons, List.flatMap_cons, List.append_assoc, List.singleton_append,
        linesFrom_feed, ih]
  unfold Log.Buffer.lines lines
  rw [Log.Buffer.toList_contents_writeLines]
  simp only [String.toList_empty, List.nil_append, hread, List.map_flatMap]
  rfl

end EdgeRender.Text
