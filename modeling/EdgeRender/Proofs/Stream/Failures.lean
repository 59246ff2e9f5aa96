import EdgeRender.Proofs.Stream.Delivery

/-! # Calls that fail in vain

A call of a sink may fail before the channel has taken anything. Phase, count and what has been
received are as before then, and a chunk that is tried again is served as if for the first time.
But the first byte is marked as soon as a chunk is tried. `failures_of_calls` says when a failed
call leaves a mark, and `failures_firstByte` shows a first byte that was never sent.
-/
namespace EdgeRender.Stream

open Exchange

def SinkReply.fault? : SinkReply → Option RenderFault
  | .sent (.error fault) | .finished (.error fault) => some fault
  | .sent (.ok _) | .finished (.ok _) => none

namespace SinkTurn

/-- A turn that failed, and whose chunk, if it had one, was not taken. -/
def InVain (t : SinkTurn) : Prop :=
  t.reply.fault?.isSome ∧ t.delivered? = none

instance (t : SinkTurn) : Decidable t.InVain :=
  inferInstanceAs (Decidable (_ ∧ _))

/-- A chunk is tried when room is asked for it. -/
def Tries (t : SinkTurn) : Prop :=
  .ready ∈ asked t.exchanges

instance (t : SinkTurn) : Decidable t.Tries :=
  inferInstanceAs (Decidable (_ ∈ _))

end SinkTurn

namespace ResponseSink

variable {s s' : ResponseSink} {t : SinkTurn}

/-! ## What a call marks -/

/-- A chunk is tried just if there is one and the response is not finished. -/
theorem Serves.tries_iff (h : s.Serves t s') :
    t.Tries ↔ t.call.chunk?.isSome ∧ s.progress ≠ .finished := by
  cases h with
  | refused hs => exact ⟨fun h => (List.not_mem_nil h).elim, fun h => absurd hs h.2⟩
  | sent hs hc he | broken hs hc he =>
    rw [SinkCall.operations_of_chunk? hc] at he
    subst he
    exact iff_of_true (Channel.mem_asked_exchanges _ _ _) ⟨by simp [hc], hs⟩
  | closed | unclosed => simp [SinkTurn.Tries, SinkCall.chunk?]

/-- The first byte is marked when the first chunk is tried, and the flush with the receipt. -/
theorem Serves.marks (h : s.Serves t s') :
    s'.marks =
      if t.receipt?.isSome then s.marks.mark Marks.flushed
      else if t.Tries then s.marksTried else s.marks := by
  have htries := h.tries_iff
  cases h with
  | refused hs => simp [SinkTurn.receipt?, htries, hs]
  | sent hs hc he hes => simp [SinkTurn.receipt?, SinkReply.receipt?, htries, hs, hc]
  | broken hs hc => simp [SinkTurn.receipt?, htries, hs, hc]
  | closed => rfl
  | unclosed hs => simp [SinkTurn.receipt?, SinkReply.receipt?, htries, SinkCall.chunk?]

/-- A call that fails changes the channel, and the marks if a chunk was tried. -/
theorem Serves.of_fault (h : s.Serves t s') (hf : t.reply.fault?.isSome) :
    s' = { s with channel := s'.channel, marks := if t.Tries then s.marksTried else s.marks } := by
  have htries := h.tries_iff
  cases h with
  | refused hs =>
    rw [if_neg fun h => (htries.mp h).2 hs]
  | broken hs hc => simp [htries, hs, hc]
  | unclosed hs => simp [htries, SinkCall.chunk?]
  | sent | closed => cases hf

/-- What gives a receipt tries no chunk. -/
theorem Serves.not_tries_of_receipt (h : s.Serves t s') (hr : t.receipt?.isSome) : ¬ t.Tries := by
  rw [h.tries_iff]
  cases h with
  | closed => simp [SinkCall.chunk?]
  | refused | broken => simp [SinkTurn.receipt?] at hr
  | sent | unclosed => cases hr

/-! ## The marks of a run -/

/-- A response that is streaming has its first byte marked. -/
def FirstByteKept (s : ResponseSink) : Prop :=
  s.progress = .streaming → s.marks.has Marks.firstByte

theorem firstByteKept_new (channel : Channel) (marks : Marks) :
    FirstByteKept { channel, marks } := nofun

/-- A chunk that is tried in a response that is not finished marks the first byte, or it is
marked already. -/
theorem has_marksTried (hs : s.progress ≠ .finished) (hkept : s.FirstByteKept) (name : String) :
    s.marksTried.has name ↔ s.marks.has name ∨ name = Marks.firstByte := by
  unfold marksTried
  cases hp : s.progress with
  | initial => simp [Marks.has_mark, or_comm]
  | streaming =>
    have hfirst : name = Marks.firstByte → s.marks.has name := fun h => h ▸ hkept hp
    simpa using hfirst
  | finished => exact absurd hp hs

/-- A chunk that is tried marks the first byte, and a receipt the flush. Nothing else is marked. -/
theorem Serves.has_iff (h : s.Serves t s') (hkept : s.FirstByteKept) (name : String) :
    s'.marks.has name ↔ s.marks.has name ∨ name = Marks.firstByte ∧ t.Tries ∨
      name = Marks.flushed ∧ t.receipt?.isSome := by
  rw [h.marks]
  by_cases hr : t.receipt?.isSome
  · simp [hr, h.not_tries_of_receipt hr, Marks.has_mark, or_comm]
  · by_cases ht : t.Tries
    · simp [hr, ht, has_marksTried (h.tries_iff.mp ht).2 hkept]
    · simp [hr, ht]

theorem Serves.firstByteKept (h : s.Serves t s') (hkept : s.FirstByteKept) :
    s'.FirstByteKept := by
  intro hs
  rw [h.has_iff hkept]
  cases h with
  | refused | broken | unclosed => exact .inl (hkept hs)
  | sent hs hc he hes => exact .inr (.inl ⟨rfl, by simp [SinkTurn.Tries, hes]⟩)
  | closed => cases hs

/-- In a run the marks are those of its turns. -/
theorem has_after (hkept : s.FirstByteKept) (calls : List SinkCall) (name : String) :
    (s.after calls).marks.has name ↔ s.marks.has name ∨
      (name = Marks.firstByte ∧ ∃ t ∈ s.turns calls, t.Tries) ∨
        name = Marks.flushed ∧ ∃ t ∈ s.turns calls, t.receipt?.isSome := by
  induction calls generalizing s with
  | nil => simp
  | cons call calls ih =>
    have hturn := serves s call
    rw [after_cons, ih (hturn.firstByteKept hkept), hturn.has_iff hkept, turns_cons]
    simp only [List.exists_mem_cons_iff, and_or_left]
    grind

/-! ## Calls made again -/

/-- A sink but for its marks. -/
def unmarked (s : ResponseSink) : ResponseSink := { s with marks := {} }

/-- The marks are only written: sinks that are the same but for them answer the same. -/
theorem serve_of_unmarked (h : s.unmarked = s'.unmarked) (call : SinkCall) :
    (s.serve call).1 = (s'.serve call).1 ∧
      (s.serve call).2.unmarked = (s'.serve call).2.unmarked := by
  obtain ⟨channel, progress, marks, bytes⟩ := s
  obtain ⟨_, _, marks', _⟩ := s'
  cases h
  cases call with
  | send chunk | sendHtml html =>
    simp only [serve, sendHtml, sendChunk]
    split
    · exact ⟨rfl, rfl⟩
    · split <;> exact ⟨rfl, rfl⟩
  | finish =>
    simp only [serve, finish]
    split
    · exact ⟨rfl, rfl⟩
    · split <;> exact ⟨rfl, rfl⟩

theorem turn_of_unmarked (h : s.unmarked = s'.unmarked) (call : SinkCall) :
    s.turn call = s'.turn call := by
  have hexchanges : s.unmarked.exchanges call = s'.unmarked.exchanges call := by rw [h]
  rw [turn, turn, (serve_of_unmarked h call).1]
  exact congrArg _ hexchanges

/-- Runs of such sinks come to the same. -/
theorem turns_of_unmarked (h : s.unmarked = s'.unmarked) (calls : List SinkCall) :
    s.turns calls = s'.turns calls ∧ (s.after calls).unmarked = (s'.after calls).unmarked := by
  induction calls generalizing s s' with
  | nil => exact ⟨rfl, h⟩
  | cons call calls ih =>
    obtain ⟨hturns, hafter⟩ := ih (serve_of_unmarked h call).2
    rw [turns_cons, turns_cons, turn_of_unmarked h, hturns]
    exact ⟨rfl, hafter⟩

/-- Trying a chunk sets its mark, if it was not set by an earlier try. -/
theorem sendChunk_marksTried (s : ResponseSink) (chunk : List UInt8) :
    { s with marks := s.marksTried }.sendChunk chunk = s.sendChunk chunk := by
  by_cases hs : s.progress = .initial
  · simp [sendChunk, marksTried, hs]
  · have hsame : s.marksTried = s.marks := if_neg hs
    rw [hsame]

/-- A chunk that is sent after a failure is served as if nothing had been marked by that. -/
theorem Serves.serve_again (h : s.Serves t s') (hf : t.reply.fault?.isSome) {again : SinkCall}
    (ha : again.chunk?.isSome) : s'.serve again = { s with channel := s'.channel }.serve again := by
  obtain ⟨chunk, hchunk⟩ := Option.isSome_iff_exists.mp ha
  have hsend : s'.sendChunk chunk = { s with channel := s'.channel }.sendChunk chunk := by
    rw [h.of_fault hf]
    split
    · exact sendChunk_marksTried { s with channel := s'.channel } chunk
    · rfl
  rw [serve_of_chunk? hchunk, serve_of_chunk? hchunk, hsend]

end ResponseSink

open ResponseSink

/-- What a turn leaves that fails in vain. -/
structure FailsInVain (s : ResponseSink) (t : SinkTurn) (s' : ResponseSink) : Prop where
  /-- Phase, count and what has been received are as before. -/
  phase : s'.phase = s.phase
  bytesWritten : s'.bytesWritten = s.bytesWritten
  received : s'.channel.received = s.channel.received
  /-- So are the marks, but for that of the first byte if the first chunk was tried. -/
  marks : s'.marks =
    if s.progress = .initial ∧ t.Tries then s.marks.mark Marks.firstByte else s.marks
  kept : s'.marks = s.marks ↔ (s.progress = .initial → t.Tries → s.marks.has Marks.firstByte)
  /-- A chunk that is sent then is served as if there had been no failure, marks included, -/
  again : ∀ call : SinkCall, call.chunk?.isSome →
    s'.serve call = { s with channel := s'.channel }.serve call
  /-- and any calls come to what they would, but for the mark. -/
  later : ∀ calls, s'.turns calls = { s with channel := s'.channel }.turns calls ∧
    (s'.after calls).unmarked = ({ s with channel := s'.channel }.after calls).unmarked

theorem ResponseSink.Serves.failsInVain {s s' : ResponseSink} {t : SinkTurn} (h : s.Serves t s')
    (ht : t.InVain) : FailsInVain s t s' := by
  obtain ⟨hf, hnone⟩ := ht
  have hleft := h.of_fault hf
  have hmarks : s'.marks =
      if s.progress = .initial ∧ t.Tries then s.marks.mark Marks.firstByte else s.marks := by
    rw [hleft]
    by_cases htries : t.Tries <;> simp [marksTried, htries]
  constructor
  case phase =>
    rw [hleft]
    rfl
  case bytesWritten => rw [hleft]
  case received => simp [h.channel, hnone]
  case marks => exact hmarks
  case kept =>
    rw [hmarks]
    split
    · next htried => simp [htried, Marks.mark_eq_self_iff]
    · next hnot => exact iff_of_true rfl fun hs htries => absurd ⟨hs, htries⟩ hnot
  case again =>
    intro call hcall
    exact h.serve_again hf hcall
  case later =>
    intro calls
    apply turns_of_unmarked
    rw [hleft]
    rfl

/-- Let a response be sent over any channel, whatever operations of it fail. A call that fails
before its chunk is taken leaves phase and count as they were, and the calls after it come to what
they would have. But the first byte is marked as soon as a chunk is tried: the marks are as they
were just if it was not the first to be tried, or the first byte was marked before. The flush is
marked just if there was a receipt. -/
theorem failures_of_calls (channel : Channel) (marks : Marks) (calls : List SinkCall) :
    let s₀ : ResponseSink := { channel, marks }
    (∀ (i : Nat) (t : SinkTurn), (s₀.turns calls)[i]? = some t → t.InVain →
        FailsInVain (s₀.after (calls.take i)) t (s₀.after (calls.take (i + 1)))) ∧
      ∀ name, (s₀.after calls).marks.has name ↔ marks.has name ∨
        (name = Marks.firstByte ∧ ∃ t ∈ s₀.turns calls, t.Tries) ∨
          name = Marks.flushed ∧ ∃ t ∈ s₀.turns calls, t.receipt?.isSome := by
  intro s₀
  constructor
  · intro i t ht hvain
    exact (serves_of_turn s₀ ht).failsInVain hvain
  · intro name
    exact has_after (firstByteKept_new channel marks) calls name

/-- There is no room for the first chunk. Nothing is received or counted, but the first byte is
marked. -/
theorem failures_firstByte :
    let s₀ : ResponseSink := { channel := { faults := [⟨.ready, 0, "full"⟩] } }
    let s := s₀.after [.sendHtml "abc"]
    (s₀.turn (.sendHtml "abc")).InVain ∧ s.channel.received = [] ∧ s.phase = .start ∧
      s.bytesWritten = 0 ∧ s₀.marks.has Marks.firstByte = false ∧
      s.marks.has Marks.firstByte = true := by
  decide +kernel

end EdgeRender.Stream
