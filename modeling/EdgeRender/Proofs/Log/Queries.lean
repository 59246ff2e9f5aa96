import EdgeRender.Log.Buffer
import EdgeRender.Proofs.Text.Occurrences
import Mathlib.Algebra.GroupWithZero.Nat
import Mathlib.Data.List.Induction

/-! # What is found in a log

A needle without a line feed is counted in a log line by line: each line that is written adds what
it holds, and no match goes over from one into another. The empty needle is counted once in a new
log already.
-/
namespace EdgeRender.Log.Buffer

open EdgeRender.Text

/-! ## Runs -/

inductive Change where
  | write (line : String)
  | clear
  deriving DecidableEq, Repr

def changed (b : Buffer) : Change → Buffer
  | .write line => b.writeLine line
  | .clear => b.clear

def built (changes : List Change) : Buffer := changes.foldl changed {}

/-- The lines written since the log was cleared last. -/
def standing (changes : List Change) : List String :=
  changes.foldl (fun lines change =>
    match change with
    | .write line => lines ++ [line]
    | .clear => []) []

theorem built_concat (changes : List Change) (change : Change) :
    built (changes ++ [change]) = (built changes).changed change := by
  simp [built]

theorem standing_write (changes : List Change) (line : String) :
    standing (changes ++ [.write line]) = standing changes ++ [line] := by
  simp [standing]

theorem standing_clear (changes : List Change) : standing (changes ++ [.clear]) = [] := by
  simp [standing]

/-- A log holds the lines that are standing, and nothing else. -/
theorem built_eq (changes : List Change) : built changes = writeLines {} (standing changes) := by
  induction changes using List.reverseRecOn with
  | nil => rfl
  | append_singleton changes change ih =>
    rw [built_concat, ih]
    cases change with
    | write line =>
      rw [standing_write, writeLines_append]
      rfl
    | clear =>
      rw [standing_clear]
      rfl

/-! ## Lines with their ends -/

/-- The characters that lines are written with. -/
def ended (lines : List String) : List Char := lines.flatMap fun line => line.toList ++ ['\n']

theorem ended_cons (line : String) (lines : List String) :
    ended (line :: lines) = line.toList ++ '\n' :: ended lines := by
  simp [ended]

theorem toList_contents_built (changes : List Change) :
    (built changes).contents.toList = ended (standing changes) := by
  rw [built_eq, toList_contents_writeLines]
  rfl

section Needles

variable {needle : List Char}

/-- Each line adds what it holds to what is counted without any. -/
theorem occurrencesFrom_ended (h : '\n' ∉ needle) (lines : List String) :
    occurrencesFrom needle 0 (ended lines) =
      (lines.map fun line => occurrencesFrom needle 0 line.toList).sum +
        occurrencesFrom needle 0 [] := by
  induction lines with
  | nil => simp [ended]
  | cons line lines ih =>
    rw [ended_cons, occurrencesFrom_seam h (Nat.zero_le _), ih, List.map_cons, List.sum_cons,
      Nat.add_assoc]

/-- The needle stands within one line, or it is empty and stands behind all of them. -/
inductive StandsIn (needle : List Char) : List String → List Char → List Char → Prop where
  | line {earlier later : List String} {line : String} {front back : List Char} :
      line.toList = front ++ (needle ++ back) →
      StandsIn needle (earlier ++ line :: later) (ended earlier ++ front)
        (back ++ '\n' :: ended later)
  | behind {lines : List String} : needle = [] → StandsIn needle lines (ended lines) []

theorem StandsIn.cons {lines : List String} {before after : List Char}
    (h : StandsIn needle lines before after) (line : String) :
    StandsIn needle (line :: lines) (line.toList ++ '\n' :: before) after := by
  cases h with
  | @line earlier later line' front back hline =>
    have hcons : StandsIn needle (line :: earlier ++ line' :: later)
        (ended (line :: earlier) ++ front) (back ++ '\n' :: ended later) := .line hline
    rwa [ended_cons, List.append_assoc, List.cons_append] at hcons
  | behind hempty =>
    rw [← ended_cons]
    exact .behind hempty

/-- A needle that stands in front of the end of a line, or at it, stands in the line. -/
theorem StandsIn.first (h : '\n' ∉ needle) {lines : List String} {line : String}
    {before more after : List Char} (hline : line.toList = before ++ more)
    (hmore : needle ++ after = more ++ '\n' :: ended lines) :
    StandsIn needle (line :: lines) before after := by
  obtain ⟨back, rfl⟩ := (prefix_seam_iff h more (ended lines)).mp ⟨after, hmore⟩
  rw [List.append_assoc, List.append_cancel_left_eq] at hmore
  have hfirst : StandsIn needle ([] ++ line :: lines) (ended [] ++ before)
      (back ++ '\n' :: ended lines) := .line hline
  rwa [hmore]

/-- Where a needle stands in a log, it stands in one line of it. -/
theorem standsIn_of_ended (h : '\n' ∉ needle) {lines : List String} {before after : List Char}
    (heq : ended lines = before ++ (needle ++ after)) : StandsIn needle lines before after := by
  induction lines generalizing before with
  | nil =>
    obtain ⟨rfl, hrest⟩ := List.append_eq_nil_iff.mp heq.symm
    obtain ⟨rfl, rfl⟩ := List.append_eq_nil_iff.mp hrest
    exact .behind rfl
  | cons line lines ih =>
    rw [ended_cons] at heq
    rcases List.append_eq_append_iff.mp heq with ⟨more, rfl, hmore⟩ | ⟨more, hline, hmore⟩
    · cases more with
      | nil =>
        have hfirst : needle ++ after = [] ++ '\n' :: ended lines := hmore.symm
        rw [List.append_nil]
        exact .first h (List.append_nil _).symm hfirst
      | cons c more =>
        obtain ⟨rfl, hrest⟩ := List.cons.inj hmore
        exact (ih hrest).cons line
    · exact .first h hline hmore

end Needles

/-! ## Queries -/

/-- How a needle is found in the logs that new ones become. -/
structure AddsUp (needle : String) : Prop where
  /-- A line that is written adds what it holds. -/
  written : ∀ changes line, ((built changes).writeLine line).count needle =
    (built changes).count needle + occurrences needle line
  /-- What a text holds is counted from left to right, without overlap. -/
  counted : needle ≠ "" → ∀ (text : String) (n : Nat),
    Counted needle.toList text.toList n ↔ occurrences needle text = n
  /-- The empty needle stands before each character and at the end. -/
  empty : needle = "" → ∀ text : String, occurrences needle text = text.length + 1
  contains_iff : ∀ changes, (built changes).contains needle = true ↔
    0 < (built changes).count needle
  /-- A log holds what the lines hold that are standing, and what a new one holds. -/
  sum : ∀ changes, (built changes).count needle =
    ((standing changes).map (occurrences needle)).sum + if needle = "" then 1 else 0
  /-- No match is in two lines. -/
  apart : ∀ changes before after,
    (built changes).contents.toList = before ++ (needle.toList ++ after) →
      StandsIn needle.toList (standing changes) before after
  /-- A log that was cleared is a new one. -/
  cleared : ∀ changes, (built changes).clear = built []

theorem count_built {needle : String} (h : '\n' ∉ needle.toList) (changes : List Change) :
    (built changes).count needle =
      ((standing changes).map (occurrences needle)).sum + if needle = "" then 1 else 0 := by
  have hnew : occurrencesFrom needle.toList 0 [] = if needle = "" then 1 else 0 := by
    simp [occurrencesFrom]
  rw [count, occurrences, toList_contents_built, occurrencesFrom_ended h, hnew]
  rfl

/-- Needles without a line feed are counted line by line. -/
theorem addsUp_of_notMem {needle : String} (h : '\n' ∉ needle.toList) : AddsUp needle where
  written changes line := by
    have hwritten : (built changes).writeLine line = built (changes ++ [.write line]) :=
      (built_concat changes (.write line)).symm
    rw [hwritten, count_built h, count_built h, standing_write, List.map_append, List.sum_append,
      List.map_singleton, List.sum_singleton]
    omega
  counted hne text n := counted_iff (by simpa using hne)
  empty hempty text := by
    rw [hempty, occurrences, String.toList_empty, occurrencesFrom_nil, String.length_toList]
  contains_iff changes := by
    rw [contains, Text.contains, hasInfix_iff, count, occurrences, occurrencesFrom_pos_iff]
  sum := count_built h
  apart changes before after heq := by
    rw [toList_contents_built] at heq
    exact standsIn_of_ended h heq
  cleared _ := rfl

/-- A needle that overlaps itself. -/
theorem addsUp_overlapping : '\n' ∉ "aa".toList ∧ AddsUp "aa" :=
  ⟨by decide, addsUp_of_notMem (by decide)⟩

/-- The empty needle is counted once more than the lines hold it: a new log holds it already. -/
theorem count_emptyNeedle :
    '\n' ∉ "".toList ∧ (built []).count "" = 1 ∧ (built [.write "ab"]).count "" = 4 ∧
      ((standing [.write "ab"]).map (occurrences "")).sum = 3 := by
  decide

end EdgeRender.Log.Buffer
