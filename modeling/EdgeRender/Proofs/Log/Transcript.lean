import EdgeRender.Proofs.Log.Scope
import EdgeRender.Proofs.Text.Lines
import Mathlib.Algebra.Order.BigOperators.Group.List
import Mathlib.Algebra.Order.Group.Nat

/-! # The transcript of diagnostics

In development a line that names the fetch is written for every diagnostic, and a line with the
warning when that is new. `transcript` is this sequence of texts. `Transcribed` says how it is
read again: the URL of a fetch stands in its line as it was given, and each line feed in it
breaks the line. What comes after the line feed may look like a warning.
-/
namespace EdgeRender.Log

open EdgeRender.Text

/-- What is to be written for a diagnostic after others: a text for each line. -/
def Diagnostic.textsAfter (before : List Diagnostic) (d : Diagnostic) : List String :=
  if (before.map topic).contains d.topic then [d.identityLine]
  else [d.identityLine, d.warningLine]

def transcriptAfter (before : List Diagnostic) : List Diagnostic → List String
  | [] => []
  | d :: ds => d.textsAfter before ++ transcriptAfter (before ++ [d]) ds

theorem lines_verdict (before : List Diagnostic) (d : Diagnostic) :
    (verdict .development before d).lines d = d.textsAfter before := by
  unfold verdict Diagnostic.textsAfter
  dsimp only
  split <;> rfl

/-- What is to be written for the diagnostics of a request, one after another. -/
def transcript (ds : List Diagnostic) : List String := transcriptAfter [] ds

def isWarning (line : String) : Bool := Diagnostic.warningMark.toList.isPrefixOf line.toList

namespace Diagnostic

/-- The lines of the name of a fetch that look like warnings. -/
def forged (d : Diagnostic) : Nat := (Text.lines d.identityLine).countP isWarning

/-- The message is one line, and neither it nor the URL stops at a line end. -/
structure Written (d : Diagnostic) : Prop where
  url : StopsInLine d.url.toList
  message : StopsInLine d.message.toList
  message_line : '\n' ∉ d.message.toList

variable {d : Diagnostic}

theorem toList_identityLine (d : Diagnostic) :
    d.identityLine.toList = [' ', '│', ' '] ++ d.method.name ++ [' '] ++ d.url.toList := by
  simp [identityLine, requestLine, requestMark, Method.text]

theorem toList_warningLine (d : Diagnostic) :
    d.warningLine.toList = warningMark.toList ++ d.message.toList := by
  simp [warningLine]

theorem isTokenChar_of_mem {m : Method} {c : Char} (h : c ∈ m.name) : isTokenChar c = true := by
  have htoken := m.token
  simp only [isToken, Bool.and_eq_true, List.all_eq_true] at htoken
  exact htoken.2 c h

/-- All line feeds in the name of a fetch are those of the URL. -/
theorem count_identityLine (d : Diagnostic) :
    d.identityLine.toList.count '\n' = d.url.toList.count '\n' := by
  have hname : '\n' ∉ d.method.name := by
    intro h
    exact absurd (isTokenChar_of_mem h) (by decide)
  simp [toList_identityLine, List.count_eq_zero.mpr hname]

/-- The name of a fetch does not begin as a warning does, for no method does. -/
theorem isWarning_identityLine (d : Diagnostic) : isWarning d.identityLine = false := by
  have htoken := d.method.token
  obtain ⟨c, cs, hname⟩ : ∃ c cs, d.method.name = c :: cs := by
    apply List.exists_cons_of_ne_nil
    intro hnil
    rw [hnil] at htoken
    cases htoken
  have hc : c ≠ '│' := by
    rintro rfl
    have hmem : '│' ∈ d.method.name := hname ▸ List.mem_cons_self
    exact absurd (isTokenChar_of_mem hmem) (by decide)
  simp [isWarning, toList_identityLine, hname, warningMark, List.isPrefixOf_cons_cons, Ne.symm hc]

theorem isWarning_warningLine (d : Diagnostic) : isWarning d.warningLine = true := by
  simp [isWarning, toList_warningLine]

theorem lines_identityLine (h : '\n' ∉ d.url.toList) :
    Text.lines d.identityLine = [d.identityLine] := by
  apply lines_of_notMem
  · rw [← List.count_eq_zero, count_identityLine, List.count_eq_zero]
    exact h
  · simp [toList_identityLine]

/-- Without a line feed in the URL nothing is forged. -/
theorem forged_of_notMem (h : '\n' ∉ d.url.toList) : d.forged = 0 := by
  simp [forged, lines_identityLine h, isWarning_identityLine]

namespace Written

theorem stopsInLine_identityLine (h : d.Written) : StopsInLine d.identityLine.toList := by
  rw [toList_identityLine]
  exact h.url.append _

theorem notMem_warningLine (h : d.Written) : '\n' ∉ d.warningLine.toList := by
  simp [toList_warningLine, warningMark, h.message_line]

theorem stopsInLine_textsAfter (h : d.Written) (before : List Diagnostic) :
    ∀ t ∈ d.textsAfter before, StopsInLine t.toList := by
  have hwarning : StopsInLine d.warningLine.toList := by
    rw [toList_warningLine]
    exact h.message.append _
  unfold textsAfter
  split <;> simp [h.stopsInLine_identityLine, hwarning]

/-- A warning is one line, and looks like it. -/
theorem countP_lines_textsAfter (h : d.Written) (before : List Diagnostic) :
    ((d.textsAfter before).flatMap Text.lines).countP isWarning
      = d.forged + if d.topic ∈ before.map topic then 0 else 1 := by
  have hwarning : Text.lines d.warningLine = [d.warningLine] := by
    apply lines_of_notMem h.notMem_warningLine
    simp [toList_warningLine, warningMark]
  unfold textsAfter forged
  simp only [List.contains_iff_mem]
  split <;> simp [hwarning, isWarning_warningLine]

theorem count_textsAfter (h : d.Written) (before : List Diagnostic) :
    ((d.textsAfter before).map (·.toList.count '\n')).sum = d.url.toList.count '\n' := by
  unfold textsAfter
  split <;> simp [count_identityLine, List.count_eq_zero.mpr h.notMem_warningLine]

end Written
end Diagnostic

variable {ds : List Diagnostic}

theorem stopsInLine_transcriptAfter (before : List Diagnostic) (h : ∀ d ∈ ds, d.Written) :
    ∀ t ∈ transcriptAfter before ds, StopsInLine t.toList := by
  induction ds generalizing before with
  | nil => simp [transcriptAfter]
  | cons d ds ih =>
    intro t ht
    rcases List.mem_append.mp ht with ht | ht
    · exact (h d List.mem_cons_self).stopsInLine_textsAfter before t ht
    · exact ih (before ++ [d]) (fun d' hd' => h d' (List.mem_cons_of_mem _ hd')) t ht

theorem count_transcriptAfter (before : List Diagnostic) (h : ∀ d ∈ ds, d.Written) :
    ((transcriptAfter before ds).map (·.toList.count '\n')).sum
      = (ds.map (·.url.toList.count '\n')).sum := by
  induction ds generalizing before with
  | nil => rfl
  | cons d ds ih =>
    have hd := (h d List.mem_cons_self).count_textsAfter before
    have hds := ih (before ++ [d]) fun d' hd' => h d' (List.mem_cons_of_mem _ hd')
    simp [transcriptAfter, hd, hds]

theorem DiagnosticScope.count_after_concat (ds : List Diagnostic) (d : Diagnostic) :
    (after { mode := .development } (ds ++ [d])).count
      = (after { mode := .development } ds).count
        + if d.topic ∈ ds.map Diagnostic.topic then 0 else 1 := by
  have hinsert : ((ds ++ [d]).map Diagnostic.topic).toFinset
      = insert d.topic (ds.map Diagnostic.topic).toFinset := by
    ext t
    simp
  simp only [count_after, if_true, hinsert]
  split
  · next hold => simp [Finset.insert_eq_of_mem (List.mem_toFinset.mpr hold)]
  · next hnew => simp [Finset.card_insert_of_notMem (mt List.mem_toFinset.mp hnew)]

/-- Lines look like warnings because a warning is new, or because they are forged. -/
theorem countP_lines_transcriptAfter (before : List Diagnostic) (h : ∀ d ∈ ds, d.Written) :
    (DiagnosticScope.after { mode := .development } before).count
        + ((transcriptAfter before ds).flatMap Text.lines).countP isWarning
      = (DiagnosticScope.after { mode := .development } (before ++ ds)).count
        + (ds.map Diagnostic.forged).sum := by
  -- a new warning is one more in the scope and one more line, which keeps the balance
  induction ds generalizing before with
  | nil => simp [transcriptAfter]
  | cons d ds ih =>
    have hd := (h d List.mem_cons_self).countP_lines_textsAfter before
    have hds := ih (before ++ [d]) fun d' hd' => h d' (List.mem_cons_of_mem _ hd')
    rw [DiagnosticScope.count_after_concat, List.append_assoc, List.singleton_append] at hds
    simp only [transcriptAfter, List.flatMap_append, List.countP_append, hd, List.map_cons,
      List.sum_cons]
    omega

/-- What the lines of a log have to do with the diagnostics that they were written for. -/
structure Transcribed (ds : List Diagnostic) (log : List String) (count : Nat) : Prop where
  /-- The lines are those of the transcript, text by text. -/
  lines : log = (transcript ds).flatMap Text.lines
  /-- Each text is one line just if no line feed is in a URL. -/
  whole : log = transcript ds ↔ ∀ d ∈ ds, '\n' ∉ d.url.toList
  /-- Each line feed breaks a line. -/
  length : log.length = (transcript ds).length + (ds.map (·.url.toList.count '\n')).sum
  /-- The warnings are those that were counted, and those forged. -/
  warnings : log.countP isWarning = count + (ds.map Diagnostic.forged).sum
  /-- To forge one takes a line feed. -/
  honest : ∀ d ∈ ds, '\n' ∉ d.url.toList → d.forged = 0

/-- What a scope writes into an empty buffer. -/
theorem transcribed_of_written (h : ∀ d ∈ ds, d.Written) :
    Transcribed ds (Buffer.writeLines {} (transcript ds)).lines
      (DiagnosticScope.after { mode := .development } ds).count := by
  have hstops := stopsInLine_transcriptAfter [] h
  have hfeeds := count_transcriptAfter [] h
  have hcount := countP_lines_transcriptAfter [] h
  have hlog : (Buffer.writeLines {} (transcript ds)).lines = (transcript ds).flatMap Text.lines :=
    lines_writeLines hstops
  rw [hlog]
  refine ⟨rfl, ?_, ?_, ?_, fun d _ => Diagnostic.forged_of_notMem⟩
  · rw [transcript, flatMap_lines_eq_self_iff hstops, hfeeds]
    simp [List.sum_eq_zero_iff, List.count_eq_zero]
  · rw [transcript, length_flatMap_lines hstops, hfeeds]
  · simpa [transcript, DiagnosticScope.count] using hcount

end EdgeRender.Log
