import EdgeRender.Proofs.Fetch.Calls
import EdgeRender.Proofs.Log.Transcript

/-! # The transcript of a client

A client in development writes the transcript of what its calls deserve. The messages are
single lines, but a URL with a line feed in it is accepted, for the parser passes over line
feeds: then the log holds more lines than were written.
-/
namespace EdgeRender.Fetch

open EdgeRender.Log EdgeRender.Text

/-! ## The diagnostics of fetches -/

/-- A text without blanks at its ends stops within a line. -/
theorem stopsInLine_trim {s : String} (h : (trim s).toList ≠ []) :
    StopsInLine (trim s).toList := by
  -- the last character of what is left is the first one that is kept of the reverse
  have hlist : (trim s).toList = ((s.toList.dropWhile isBlank).reverse.dropWhile isBlank).reverse := by
    simp [trim, trimEnds]
  rw [hlist] at h ⊢
  have hlast := List.head?_dropWhile_not isBlank (s.toList.dropWhile isBlank).reverse
  cases hrest : (s.toList.dropWhile isBlank).reverse.dropWhile isBlank with
  | nil => simp [hrest] at h
  | cons c rest =>
    simp only [hrest, List.head?_cons] at hlast
    refine ⟨c, by simp, ?_, ?_⟩
    · rintro rfl
      exact absurd hlast (by decide)
    · rintro rfl
      exact absurd hlast (by decide)

theorem Key.trim_ne_nil_of_parse {url : String} {key : Key} (h : Key.parse url = .ok key) :
    (trim url).toList ≠ [] := by
  unfold Key.parse at h
  intro hnil
  rw [if_pos (by simpa using hnil)] at h
  cases h

theorem normalize_url {input : Input} {spec : Spec} (h : normalize input = .ok spec) :
    spec.url = trim input.url ∧ (trim input.url).toList ≠ [] := by
  unfold normalize at h
  cases hkey : Key.parse input.url with
  | error fault =>
    rw [hkey] at h
    cases h
  | ok key =>
    rw [hkey] at h
    cases h
    exact ⟨rfl, Key.trim_ne_nil_of_parse hkey⟩

theorem Conflict.notMem_message (c : Conflict) : '\n' ∉ c.message.toList := by
  have hnumber : ∀ n : Nat, '\n' ∉ Nat.toDigits 10 n := by
    intro n h
    exact absurd (Nat.isDigit_of_mem_toDigits (by decide) (by decide) h) (by decide)
  unfold message
  cases c with
  | forceCacheWithZero => simp
  | noStoreWithRevalidate n => simp [hnumber]
  | forceDynamicWithRevalidate n => simp [hnumber]

/-- A message ends with a full stop. -/
theorem Conflict.stopsInLine_message (c : Conflict) : StopsInLine c.message.toList := by
  refine ⟨'.', ?_, by decide, by decide⟩
  unfold message
  cases c with
  | forceCacheWithZero => simp
  | noStoreWithRevalidate n =>
    simp only [String.toList_append, List.getLast?_append]
    simp
  | forceDynamicWithRevalidate n =>
    simp only [String.toList_append, List.getLast?_append]
    simp

theorem written_of_diagnostic? {input : Input} {mode : RenderMode} {d : Diagnostic}
    (h : input.diagnostic? mode = some d) : d.Written := by
  obtain ⟨spec, hspec, hresolved⟩ := Option.bind_eq_some_iff.mp h
  obtain ⟨conflict, -, rfl⟩ := Option.map_eq_some_iff.mp hresolved
  have hnormal : normalize input = .ok spec := by
    cases hn : normalize input with
    | error fault =>
      rw [hn] at hspec
      cases hspec
    | ok spec' =>
      rw [hn] at hspec
      exact congrArg Except.ok (Option.some.inj hspec)
  obtain ⟨hurl, hne⟩ := normalize_url hnormal
  refine ⟨?_, conflict.stopsInLine_message, conflict.notMem_message⟩
  show StopsInLine spec.url.toList
  rw [hurl]
  exact stopsInLine_trim hne

variable {α σ : Type}

theorem written_of_mem_deserved {mode : RenderMode} {calls : List (Call α)} :
    ∀ d ∈ deserved mode calls, d.Written := by
  intro d hd
  obtain ⟨call, -, hcall⟩ := List.mem_filterMap.mp hd
  exact written_of_diagnostic? hcall

/-- In development a client writes the transcript, whatever the calls want. -/
theorem lines_serveAll_development (c : Client) (f : Fetcher σ) (s : σ) (calls : List (Call α))
    (before : List Diagnostic)
    (h : c.diagnostics = DiagnosticScope.after { mode := .development } before) :
    Journal.lines ((c.serveAll f s calls).1.flatMap (·.events))
      = transcriptAfter before (deserved c.renderMode calls) := by
  induction calls generalizing c s before with
  | nil => rfl
  | cons call calls ih =>
    rw [Client.serveAll_cons, Client.serve_eq, deserved_cons]
    cases hd : call.input.diagnostic? c.renderMode with
    | none => simpa using ih c _ before h
    | some d =>
      have hshown := DiagnosticScope.emit_after .development before d
      rw [← h] at hshown
      have hrest := fun s =>
        ih { c with diagnostics := .after { mode := .development } (before ++ [d]) } s _ rfl
      simp [DiagnosticScope.emit?, hshown, transcriptAfter, lines_verdict, hrest]

/-- Let calls be made of a client in development that writes into a buffer. What is written is
the transcript of the warnings that their inputs deserve: a line that names the fetch for each,
and the warning when it is new. It is read as it was written, and has as many warnings as were
counted, unless there is a line feed in a URL. Each of those breaks a line, and the lines that
come of it may look like warnings that were not counted. -/
theorem transcribed_of_calls (id : RequestId) (mode : RenderMode) (f : Fetcher σ) (s : σ)
    (calls : List (Call α)) :
    let c : Client := ⟨id, mode, { mode := .development }⟩
    let (turnouts, c, _) := c.serveAll f s calls
    Transcribed (deserved mode calls) (Journal.buffered .memory (turnouts.flatMap (·.events))).lines
      c.diagnostics.count := by
  intro c
  have hlines := lines_serveAll_development c f s calls [] rfl
  have hleft := c.serveAll_left f s calls
  have hwritten : ∀ d ∈ deserved mode calls, d.Written := written_of_mem_deserved
  simp only [hleft, Journal.buffered, if_true, hlines]
  exact transcribed_of_written hwritten

/-- The line feed of a URL makes a warning that nobody gave. -/
theorem transcript_forged :
    let calls : List (Call Json.Value) :=
      [.fetch (.plain "https://a.test/\n │ │ ⚠ forged" { cache := .noStore, revalidate := some 3 })]
    let c : Client := ⟨⟨"req-1"⟩, .dynamic, { mode := .development }⟩
    let (turnouts, c, _) := c.serveAll Catalog.fetcher {} calls
    let log := (Journal.buffered .memory (turnouts.flatMap (·.events))).lines
    log = [" │ GET https://a.test/", " │ │ ⚠ forged",
        " │ │ ⚠ Specified \"cache: no-store\" and \"revalidate: 3\", only one should be specified."] ∧
      transcript (deserved .dynamic calls) = [" │ GET https://a.test/\n │ │ ⚠ forged",
        " │ │ ⚠ Specified \"cache: no-store\" and \"revalidate: 3\", only one should be specified."] ∧
      log.countP isWarning = 2 ∧ c.diagnostics.count = 1 := by
  decide +kernel

end EdgeRender.Fetch
