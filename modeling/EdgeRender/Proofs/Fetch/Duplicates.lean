import EdgeRender.Proofs.Fetch.Calls

/-! # Warnings that are told apart

A scope remembers warnings by texts: that of the key, and the message. The messages of different
conflicts differ (`Conflict.message_injective`), so a warning passes for a repetition only after
one about the same conflict over the same resource (`tellsApart`).
-/
namespace EdgeRender.Fetch

open EdgeRender.Log

/-! ## Messages -/

namespace Conflict

/-- The character of a message in which kinds of conflicts differ: the first of the cache mode, or
the colon behind `dynamic`. -/
def sign : Conflict → Char
  | .forceCacheWithZero => 'f'
  | .noStoreWithRevalidate _ => 'n'
  | .forceDynamicWithRevalidate _ => ':'

theorem getElem?_message (c : Conflict) : c.message.toList[18]? = some c.sign := by
  unfold message sign
  cases c with
  | forceCacheWithZero => simp
  | noStoreWithRevalidate n => simp
  | forceDynamicWithRevalidate n => simp

/-- A number can be read out of the text around it. -/
theorem seconds_eq_of_text {before after : String} {n n' : UInt32}
    (h : before ++ toString n.toNat ++ after = before ++ toString n'.toNat ++ after) : n = n' := by
  have hlist := congrArg String.toList h
  simp only [String.toList_append] at hlist
  have hdigits := List.append_cancel_left (List.append_cancel_right hlist)
  have hnumber := congrArg (fun ds => Nat.ofDigitChars 10 ds 0) hdigits
  exact UInt32.toNat_inj.mp (by simpa using hnumber)

/-- Different conflicts have different messages. -/
theorem message_injective : Function.Injective message := by
  intro c c' h
  have hsign : c.sign = c'.sign := by
    have hchar := congrArg (fun text : String => text.toList[18]?) h
    simpa only [getElem?_message, Option.some.injEq] using hchar
  -- of one kind they differ in the number, and else in the sign
  cases c with
  | forceCacheWithZero =>
    cases c' with
    | forceCacheWithZero => rfl
    | noStoreWithRevalidate | forceDynamicWithRevalidate => cases hsign
  | noStoreWithRevalidate n =>
    cases c' with
    | noStoreWithRevalidate n' => rw [seconds_eq_of_text h]
    | forceCacheWithZero | forceDynamicWithRevalidate => cases hsign
  | forceDynamicWithRevalidate n =>
    cases c' with
    | forceDynamicWithRevalidate n' => rw [seconds_eq_of_text h]
    | forceCacheWithZero | noStoreWithRevalidate => cases hsign

end Conflict

/-! ## What a warning is about -/

/-- The conflict of an input on a route of the given mode, with the key of its resource. -/
def Input.conflict? (mode : RenderMode) (input : Input) : Option (Key × Conflict) :=
  (normalize input).toOption.bind fun spec => (findConflict? spec mode).map (spec.key, ·)

/-- The topic of the warning about a conflict. -/
def topicOf (x : Key × Conflict) : String × String :=
  (x.1.text, x.2.message)

theorem topicOf_injective : Function.Injective topicOf := by
  rintro ⟨⟨text⟩, conflict⟩ ⟨⟨text'⟩, conflict'⟩ h
  obtain ⟨htext, hmessage⟩ := Prod.mk.inj h
  obtain rfl : text = text' := htext
  obtain rfl : conflict = conflict' := Conflict.message_injective hmessage
  rfl

/-- An input deserves a warning just if it has a conflict, and the warning is about that. -/
theorem topic_diagnostic? (mode : RenderMode) (input : Input) :
    (input.diagnostic? mode).map Diagnostic.topic = (input.conflict? mode).map topicOf := by
  unfold Input.diagnostic? Input.conflict?
  cases (normalize input).toOption with
  | none => rfl
  | some spec =>
    show ((findConflict? spec mode).map (·.diagnostic spec)).map Diagnostic.topic
      = ((findConflict? spec mode).map (spec.key, ·)).map topicOf
    rw [Option.map_map, Option.map_map]
    rfl

theorem exists_diagnostic? {mode : RenderMode} {input : Input} {x : Key × Conflict}
    (h : input.conflict? mode = some x) :
    ∃ d, input.diagnostic? mode = some d ∧ d.topic = topicOf x := by
  have htopic := topic_diagnostic? mode input
  rw [h] at htopic
  exact Option.map_eq_some_iff.mp htopic

variable {α σ : Type}

def conflicts (mode : RenderMode) (calls : List (Call α)) : List (Key × Conflict) :=
  calls.filterMap (·.input.conflict? mode)

theorem map_topic_deserved (mode : RenderMode) (calls : List (Call α)) :
    (deserved mode calls).map Diagnostic.topic = (conflicts mode calls).map topicOf := by
  simp only [deserved, conflicts, List.map_filterMap, topic_diagnostic?]

/-- Among the topics that calls have deserved is that of a conflict just if they had this one. -/
theorem topicOf_mem_deserved {mode : RenderMode} {calls : List (Call α)} {x : Key × Conflict} :
    topicOf x ∈ (deserved mode calls).map Diagnostic.topic ↔ x ∈ conflicts mode calls := by
  rw [map_topic_deserved, List.mem_map_of_injective topicOf_injective]

/-! ## What is reported of a call -/

/-- A turnout shows what became of its warning: in its lines, and in the answer if the fetch was
only made ready. -/
structure Turnout.Reports (t : Turnout α) (d : Diagnostic) (e : Emission) : Prop where
  lines : t.lines = e.lines d
  told : ∀ answer, t.reply = .prepared answer → ∃ p, answer = .ok p ∧ p.emission = some e

/-- So is reported of the warning of a call that is made after and before others. -/
def Client.Reports (c : Client) (f : Fetcher σ) (s : σ) (before : List (Call α)) (call : Call α)
    (rest : List (Call α)) (e : Emission) : Prop :=
  ∃ d t, call.input.diagnostic? c.renderMode = some d ∧
    (c.serveAll f s (before ++ call :: rest)).1[before.length]? = some t ∧ t.Reports d e

namespace Client

variable {c : Client} {f : Fetcher σ} {s : σ} {before rest : List (Call α)}
  {call : Call α} {x : Key × Conflict} {e e' : Emission}

/-- Not more than one thing is reported of a call. -/
theorem Reports.unique (h : c.Reports f s before call rest e)
    (h' : c.Reports f s before call rest e') : e = e' := by
  obtain ⟨d, t, hd, ht, hreports⟩ := h
  obtain ⟨d', t', hd', ht', hreports'⟩ := h'
  obtain rfl : d = d' := Option.some.inj (hd.symm.trans hd')
  obtain rfl : t = t' := Option.some.inj (ht.symm.trans ht')
  exact Emission.lines_injective d (hreports.lines.symm.trans hreports'.lines)

theorem reports_turnoutAfter {d : Diagnostic} (hd : call.input.diagnostic? c.renderMode = some d)
    (hlines : ((c.diagnostics.after (deserved c.renderMode before)).emit d).2.1 = e.lines d)
    (he : ((c.diagnostics.after (deserved c.renderMode before)).emit d).1 = e) :
    (c.turnoutAfter f s before call).Reports d e where
  lines := by
    rw [Turnout.lines, turnoutAfter, hd]
    simpa [DiagnosticScope.emit?] using hlines
  told := by
    intro answer hanswer
    rw [turnoutAfter, hd] at hanswer
    cases call with
    | prepare input =>
      cases hn : normalize input with
      | error fault =>
        rw [Call.input, Input.diagnostic?_of_error hn] at hd
        cases hd
      | ok spec =>
        have hprepared := Reply.prepared.inj hanswer
        rw [hn] at hprepared
        exact ⟨_, hprepared.symm, congrArg some he⟩
    | fetch | fetchAs => cases hanswer

/-- The warning of a call in development is reported as a repetition just if one of the calls
before had the same conflict over the same resource, or if its topic was known at first. -/
theorem reports_of_conflict (hmode : c.diagnostics.mode = .development)
    (hx : call.input.conflict? c.renderMode = some x) :
    c.Reports f s before call rest
      (if x ∈ conflicts c.renderMode before ∨ topicOf x ∈ c.diagnostics.seen then .duplicate
        else .emitted) := by
  obtain ⟨d, hd, htopic⟩ := exists_diagnostic? hx
  have hscope : (c.diagnostics.after (deserved c.renderMode before)).mode = .development := by
    rw [DiagnosticScope.mode_after, hmode]
  obtain ⟨he, hlines⟩ := DiagnosticScope.emit_development hscope d
  have hseen : d.topic ∈ (c.diagnostics.after (deserved c.renderMode before)).seen ↔
      x ∈ conflicts c.renderMode before ∨ topicOf x ∈ c.diagnostics.seen := by
    rw [DiagnosticScope.mem_seen_after, htopic, topicOf_mem_deserved, hmode]
    simp [or_comm]
  rw [if_congr hseen rfl rfl] at he
  rw [he] at hlines
  refine ⟨d, c.turnoutAfter f s before call, hd, ?_, reports_turnoutAfter hd hlines he⟩
  simp [serveAll_turnout]

theorem reports_iff (hmode : c.diagnostics.mode = .development)
    (hx : call.input.conflict? c.renderMode = some x) :
    c.Reports f s before call rest e ↔
      e = if x ∈ conflicts c.renderMode before ∨ topicOf x ∈ c.diagnostics.seen then .duplicate
        else .emitted := by
  have hreports : c.Reports f s before call rest _ := reports_of_conflict hmode hx
  constructor
  · intro h
    exact h.unique hreports
  · rintro rfl
    exact hreports

end Client

structure TellsApart (c : Client) (f : Fetcher σ) (s : σ) (α : Type) : Prop where
  /-- No two conflicts have the same message. -/
  messages : Function.Injective Conflict.message
  /-- The warning of a call is reported as a repetition just if one of the calls before had the
  same conflict over the same resource, or if its topic was known at first. -/
  reported : ∀ (before : List (Call α)) (call : Call α) (rest : List (Call α)) (x : Key × Conflict),
    call.input.conflict? c.renderMode = some x → ∀ e, c.Reports f s before call rest e ↔
      e = if x ∈ conflicts c.renderMode before ∨ topicOf x ∈ c.diagnostics.seen then .duplicate
        else .emitted
  /-- After one call only, and if it was not known, it is a repetition just if that call had the
  same conflict over the same resource. -/
  alone : ∀ (first later : Call α) (rest : List (Call α)) (x y : Key × Conflict),
    first.input.conflict? c.renderMode = some x → later.input.conflict? c.renderMode = some y →
      topicOf y ∉ c.diagnostics.seen →
        (c.Reports f s [first] later rest .duplicate ↔ x = y) ∧
          (c.Reports f s [first] later rest .emitted ↔ x ≠ y)
  /-- A call among those before it with another conflict, or over another resource, makes no
  difference to what is reported. -/
  unswallowed : ∀ (before : List (Call α)) (first : Call α) (between : List (Call α))
      (later : Call α) (rest : List (Call α)) (x y : Key × Conflict),
    first.input.conflict? c.renderMode = some x → later.input.conflict? c.renderMode = some y →
      x ≠ y → ∀ e, c.Reports f s (before ++ first :: between) later rest e ↔
        c.Reports f s (before ++ between) later rest e

/-- Let calls be made of a client in development, whatever it has shown before. A warning passes
for a repetition on account of an earlier one just if both are about the same conflict, its
seconds included, over the same resource. Nothing else of the inputs makes a difference. -/
theorem tellsApart (id : RequestId) (mode : RenderMode) (seen : List (String × String))
    (f : Fetcher σ) (s : σ) (α : Type) :
    TellsApart ⟨id, mode, { mode := .development, seen }⟩ f s α where
  messages := Conflict.message_injective
  reported _ _ _ _ hx _ := Client.reports_iff rfl hx
  alone := by
    intro first later rest x y hx hy hunknown
    rw [Client.reports_iff rfl hy, Client.reports_iff rfl hy]
    have hsame : y ∈ conflicts mode [first] ↔ x = y := by
      simp [conflicts, hx, eq_comm]
    simp only [hsame, hunknown, or_false]
    by_cases h : x = y
    · simp [h]
    · simp [h]
  unswallowed := by
    intro before first between later rest x y hx hy hne e
    rw [Client.reports_iff rfl hy, Client.reports_iff rfl hy]
    have hothers : y ∈ conflicts mode (before ++ first :: between) ↔
        y ∈ conflicts mode (before ++ between) := by
      simp [conflicts, hx, hne.symm]
    simp only [hothers]

end EdgeRender.Fetch
