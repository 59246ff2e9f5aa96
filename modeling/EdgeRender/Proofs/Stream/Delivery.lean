import EdgeRender.Proofs.Stream.Exchanges
import EdgeRender.Stream.Sink

/-! # Delivery of a response

Chunks are sent and the response is finished, in any order and as often as one likes, over a
channel that may fail at any operation. `Serves` says all that a call can come to; from it
follows, for every run of calls, what the channel receives and is asked, how the phases follow
one another and what becomes of the receipt (`delivers_of_calls`).
-/
namespace EdgeRender.Stream

open Exchange

inductive SinkCall where
  | send (chunk : List UInt8)
  | sendHtml (html : String)
  | finish
  deriving DecidableEq, Repr

inductive SinkReply where
  | sent (answer : Except RenderFault Unit)
  | finished (answer : Except RenderFault Receipt)

def SinkReply.receipt? : SinkReply → Option Receipt
  | .finished (.ok receipt) => some receipt
  | _ => none

namespace SinkCall

def chunk? : SinkCall → Option (List UInt8)
  | .send chunk => some chunk
  | .sendHtml html => some (Text.Utf8.encode html.toList)
  | .finish => none

/-- What a call asks of the channel, up to the first failure. -/
def operations : SinkCall → List Operation
  | .send _ | .sendHtml _ => [.ready, .send, .flush]
  | .finish => [.close]

/-- The answer to a call that fails. -/
def failed (fault : RenderFault) : SinkCall → SinkReply
  | .send _ | .sendHtml _ => .sent (.error fault)
  | .finish => .finished (.error fault)

/-- The answer to a call that is carried out, after so many bytes, if that was the failure. -/
def answer (call : SinkCall) (bytes : Nat) : Option String → SinkReply
  | some message => call.failed (.stream message)
  | none =>
    match call with
    | .send _ | .sendHtml _ => .sent (.ok ())
    | .finish => .finished (.ok ⟨bytes⟩)

@[simp] theorem receipt?_failed (call : SinkCall) (fault : RenderFault) :
    (call.failed fault).receipt? = none := by
  cases call <;> rfl

theorem operations_of_chunk? {call : SinkCall} {chunk : List UInt8}
    (h : call.chunk? = some chunk) : call.operations = [.ready, .send, .flush] := by
  cases call with
  | send | sendHtml => rfl
  | finish => cases h

theorem failed_of_chunk? {call : SinkCall} {chunk : List UInt8} (h : call.chunk? = some chunk)
    (fault : RenderFault) : call.failed fault = .sent (.error fault) := by
  cases call with
  | send | sendHtml => rfl
  | finish => cases h

theorem answer_of_chunk? {call : SinkCall} {chunk : List UInt8} (h : call.chunk? = some chunk)
    (bytes : Nat) : call.answer bytes none = .sent (.ok ()) := by
  cases call with
  | send | sendHtml => rfl
  | finish => cases h

end SinkCall

/-- A call that was made: the answer to it, and what was asked of the channel for it. -/
structure SinkTurn where
  call : SinkCall
  reply : SinkReply
  exchanges : List Exchange

def SinkTurn.receipt? (t : SinkTurn) : Option Receipt := t.reply.receipt?

/-- The chunk that a turn handed over: the channel had room for it and took it. -/
def SinkTurn.delivered? (t : SinkTurn) : Option (List UInt8) :=
  if handsOver t.exchanges then t.call.chunk? else none

namespace ResponseSink

/-- What a call asks of the channel now. -/
def exchanges (s : ResponseSink) (call : SinkCall) : List Exchange :=
  if s.progress = .finished then [] else s.channel.exchanges call.operations

def serve (s : ResponseSink) : SinkCall → SinkReply × ResponseSink
  | .send chunk =>
    let (answer, s) := s.sendChunk chunk
    (.sent answer, s)
  | .sendHtml html =>
    let (answer, s) := s.sendHtml html
    (.sent answer, s)
  | .finish =>
    let (answer, s) := s.finish
    (.finished answer, s)

def turn (s : ResponseSink) (call : SinkCall) : SinkTurn :=
  ⟨call, (s.serve call).1, s.exchanges call⟩

def after (s : ResponseSink) (calls : List SinkCall) : ResponseSink :=
  calls.foldl (fun s call => (s.serve call).2) s

def turns (s : ResponseSink) : List SinkCall → List SinkTurn
  | [] => []
  | call :: calls => s.turn call :: (s.serve call).2.turns calls

def marksTried (s : ResponseSink) : Marks :=
  if s.progress = .initial then s.marks.mark Marks.firstByte else s.marks

/-- All that a call can come to, and the sink that it leaves. -/
inductive Serves (s : ResponseSink) : SinkTurn → ResponseSink → Prop where
  /-- A response that is finished refuses every call, and nothing is asked of the channel. -/
  | refused {call : SinkCall} (hs : s.progress = .finished) :
      Serves s ⟨call, call.failed .alreadyFinished, []⟩ s
  /-- A chunk is handed over and flushed. -/
  | sent {call : SinkCall} {chunk : List UInt8} {es : List Exchange} (hs : s.progress ≠ .finished)
      (hc : call.chunk? = some chunk) (he : es = s.channel.exchanges call.operations)
      (hes : es = [⟨.ready, none⟩, ⟨.send, none⟩, ⟨.flush, none⟩]) :
      Serves s ⟨call, .sent (.ok ()), es⟩
        { channel := s.channel.after es [chunk], marks := s.marksTried, progress := .streaming,
          bytesWritten := s.bytesWritten + chunk.length }
  /-- An operation fails under a chunk. It may have been handed over all the same, but it is
  not flushed. -/
  | broken {call : SinkCall} {chunk : List UInt8} {es : List Exchange} {message : String}
      (hs : s.progress ≠ .finished) (hc : call.chunk? = some chunk)
      (he : es = s.channel.exchanges call.operations) (hf : failure? es = some message)
      (hflush : ⟨.flush, none⟩ ∉ es) :
      Serves s ⟨call, call.failed (.stream message), es⟩
        { s with channel := s.channel.after es (if handsOver es then [chunk] else []),
                 marks := s.marksTried }
  /-- The channel is closed, and there is a receipt. -/
  | closed (hs : s.progress ≠ .finished) (hr : s.channel.refusal? .close = none) :
      Serves s ⟨.finish, .finished (.ok ⟨s.bytesWritten⟩), [⟨.close, none⟩]⟩
        { s with channel := s.channel.after [⟨.close, none⟩] [],
                 marks := s.marks.mark Marks.flushed, progress := .finished }
  /-- The channel cannot be closed, and the response is as far as it was. -/
  | unclosed {message : String} (hs : s.progress ≠ .finished)
      (hr : s.channel.refusal? .close = some message) :
      Serves s ⟨.finish, .finished (.error (.stream message)), [⟨.close, some message⟩]⟩
        { s with channel := s.channel.after [⟨.close, some message⟩] [] }

variable {s s' : ResponseSink} {t : SinkTurn}

theorem serve_of_finished (h : s.progress = .finished) (call : SinkCall) :
    s.serve call = (call.failed .alreadyFinished, s) := by
  cases call <;> simp [serve, sendHtml, sendChunk, finish, h, SinkCall.failed]

/-- HTML is sent as the bytes that encode it. -/
theorem serve_of_chunk? {call : SinkCall} {chunk : List UInt8} (h : call.chunk? = some chunk) :
    s.serve call = (.sent (s.sendChunk chunk).1, (s.sendChunk chunk).2) := by
  cases call with
  | send | sendHtml =>
    cases h
    rfl
  | finish => cases h

theorem sendChunk_of_ok (hs : s.progress ≠ .finished) {chunk : List UInt8} {c : Channel}
    (h : s.channel.deliver chunk = (.ok (), c)) :
    s.sendChunk chunk = (.ok (),
      { channel := c, marks := s.marksTried, progress := .streaming,
        bytesWritten := s.bytesWritten + chunk.length }) := by
  rw [sendChunk, if_neg hs, h]
  rfl

theorem sendChunk_of_error (hs : s.progress ≠ .finished) {chunk : List UInt8} {c : Channel}
    {message : String} (h : s.channel.deliver chunk = (.error message, c)) :
    s.sendChunk chunk
      = (.error (.stream message), { s with channel := c, marks := s.marksTried }) := by
  rw [sendChunk, if_neg hs, h]
  rfl

theorem serves_of_chunk? (hs : s.progress ≠ .finished) {call : SinkCall} {chunk : List UInt8}
    (hc : call.chunk? = some chunk) : s.Serves (s.turn call) (s.serve call).2 := by
  have hcases := s.channel.deliver_cases chunk
  rw [← SinkCall.operations_of_chunk? hc] at hcases
  unfold turn
  rw [serve_of_chunk? hc, exchanges, if_neg hs]
  rcases hcases with ⟨hall, hdeliver⟩ | ⟨message, hf, hflush, hdeliver⟩
  · rw [sendChunk_of_ok hs hdeliver]
    exact .sent hs hc rfl hall
  · rw [sendChunk_of_error hs hdeliver, ← SinkCall.failed_of_chunk? hc]
    exact .broken hs hc rfl hf hflush

/-- Whatever call is made, it comes to one of these. -/
theorem serves (s : ResponseSink) (call : SinkCall) : s.Serves (s.turn call) (s.serve call).2 := by
  by_cases hs : s.progress = .finished
  · rw [turn, serve_of_finished hs, exchanges, if_pos hs]
    exact .refused hs
  · cases call with
    | send | sendHtml => exact serves_of_chunk? hs rfl
    | finish =>
      have hcall := s.channel.call_eq .close
      unfold turn
      rw [serve, finish, if_neg hs, exchanges, if_neg hs, SinkCall.operations,
        Channel.exchanges_singleton, hcall]
      cases hr : s.channel.refusal? .close with
      | none => exact .closed hs hr
      | some message => exact .unclosed hs hr

/-! ## What a call leaves -/

/-- The phases of a response, in their order. -/
def way : List Phase := [.start, .streaming, .flushed]

theorem phase_mem_way (s : ResponseSink) : s.phase ∈ way := by
  unfold phase
  cases s.progress <;> decide

theorem phase_eq_flushed_iff : s.phase = .flushed ↔ s.progress = .finished := by
  unfold phase
  cases s.progress <;> decide

/-- The channel has been asked what the turn says, and has received the chunk of the turn. -/
theorem Serves.channel (h : s.Serves t s') :
    s'.channel = s.channel.after t.exchanges t.delivered?.toList := by
  cases h with
  | refused hs => simp [SinkTurn.delivered?]
  | sent hs hc he hes => simp [SinkTurn.delivered?, hes, hc, handsOver]
  | broken hs hc he hf hflush =>
    simp only [SinkTurn.delivered?, hc]
    split <;> rfl
  | closed hs hr => rfl
  | unclosed hs hr => rfl

/-- A call that is carried out is answered by what failed of it. -/
theorem Serves.reply (h : s.Serves t s') (hs : s.progress ≠ .finished) :
    t.reply = t.call.answer s.bytesWritten (failure? t.exchanges) := by
  cases h with
  | refused hs' => exact absurd hs' hs
  | sent hs hc he hes =>
    subst hes
    exact (SinkCall.answer_of_chunk? hc _).symm
  | broken hs hc he hf hflush => rw [hf, SinkCall.answer]
  | closed hs hr => rfl
  | unclosed hs hr => rfl

/-- A response that is finished stays as it is, and refuses. -/
theorem Serves.of_finished (h : s.Serves t s') (hs : s.progress = .finished) :
    s' = s ∧ t.reply = t.call.failed .alreadyFinished ∧ t.exchanges = [] := by
  cases h with
  | refused hs' => exact ⟨rfl, rfl, rfl⟩
  | sent hs' | broken hs' | closed hs' | unclosed hs' => exact absurd hs hs'

/-- A receipt finishes the response, and tells the bytes that are counted. -/
theorem Serves.of_receipt (h : s.Serves t s') {receipt : Receipt}
    (hr : t.receipt? = some receipt) :
    s'.progress = .finished ∧ receipt.bytes = s'.bytesWritten := by
  cases h with
  | refused | broken =>
    rw [SinkTurn.receipt?, SinkCall.receipt?_failed] at hr
    cases hr
  | closed =>
    cases hr
    exact ⟨rfl, rfl⟩
  | sent | unclosed => cases hr

/-- Without a receipt it is not finished. -/
theorem Serves.of_none (h : s.Serves t s') (hr : t.receipt? = none) :
    s'.progress = .finished ↔ s.progress = .finished := by
  cases h with
  | refused | broken | unclosed => exact Iff.rfl
  | sent hs => exact ⟨nofun, fun h => absurd h hs⟩
  | closed => cases hr

theorem Serves.forward (h : s.Serves t s') : way.idxOf s.phase ≤ way.idxOf s'.phase := by
  have hlast : ∀ p ∈ way, way.idxOf p ≤ way.idxOf .flushed := by decide
  cases h with
  | refused | broken | unclosed => exact Nat.le_refl _
  | sent hs =>
    show way.idxOf s.phase ≤ way.idxOf .streaming
    unfold phase
    cases hp : s.progress with
    | initial | streaming => decide
    | finished => exact absurd hp hs
  | closed => exact hlast s.phase s.phase_mem_way

/-- A close that fails gives no receipt, and the response is as far as it was. -/
theorem Serves.of_unclosed (h : s.Serves t s') {message : String}
    (hm : ⟨.close, some message⟩ ∈ t.exchanges) :
    t.reply = .finished (.error (.stream message)) ∧
      s' = { s with channel := s'.channel } ∧ s.progress ≠ .finished := by
  cases h with
  | refused hs => cases hm
  | sent hs hc he | broken hs hc he =>
    rw [he, SinkCall.operations_of_chunk? hc] at hm
    have hclose : Operation.close ∈ [Operation.ready, .send, .flush] :=
      Channel.operation_mem_of_mem hm
    exact absurd hclose (by decide)
  | closed hs hr =>
    cases List.mem_singleton.mp hm
  | unclosed hs hr =>
    cases List.mem_singleton.mp hm
    exact ⟨rfl, rfl, hs⟩

/-! ## Runs of calls -/

variable {calls : List SinkCall}

@[simp] theorem after_nil (s : ResponseSink) : s.after [] = s := rfl

@[simp] theorem turns_nil (s : ResponseSink) : s.turns [] = [] := rfl

theorem after_cons (s : ResponseSink) (call : SinkCall) (calls : List SinkCall) :
    s.after (call :: calls) = (s.serve call).2.after calls := rfl

theorem turns_cons (s : ResponseSink) (call : SinkCall) (calls : List SinkCall) :
    s.turns (call :: calls) = s.turn call :: (s.serve call).2.turns calls := rfl

/-- What is picked out of the turns comes from the first of them, or from the rest. -/
theorem filterMap_turns_cons (f : SinkTurn → Option α) (s : ResponseSink) (call : SinkCall)
    (calls : List SinkCall) :
    (s.turns (call :: calls)).filterMap f
      = (f (s.turn call)).toList ++ ((s.serve call).2.turns calls).filterMap f := by
  rw [turns_cons, List.filterMap_cons]
  cases f (s.turn call) <;> rfl

theorem after_append (s : ResponseSink) (calls calls' : List SinkCall) :
    s.after (calls ++ calls') = (s.after calls).after calls' :=
  List.foldl_append

/-- A turn is that of its call, in the sink that the calls before have left. -/
theorem getElem?_turns (s : ResponseSink) (calls : List SinkCall) (i : Nat) :
    (s.turns calls)[i]? = calls[i]?.map (s.after (calls.take i)).turn := by
  induction calls generalizing s i with
  | nil => simp
  | cons call calls ih =>
    rw [turns_cons]
    cases i with
    | zero => rfl
    | succ i => simp [ih, after_cons]

/-- Between two moments of a run calls are made. -/
theorem after_take_of_le (s : ResponseSink) {i j : Nat} (hij : i ≤ j) :
    s.after (calls.take j) = (s.after (calls.take i)).after ((calls.take j).drop i) := by
  rw [← after_append]
  conv => lhs; rw [← List.take_append_drop i (calls.take j)]
  rw [List.take_take, Nat.min_eq_left hij]

/-- From one moment to the next, the sink makes its turn. -/
theorem serves_of_turn (s : ResponseSink) {i : Nat} (h : (s.turns calls)[i]? = some t) :
    (s.after (calls.take i)).Serves t (s.after (calls.take (i + 1))) := by
  rw [getElem?_turns, Option.map_eq_some_iff] at h
  obtain ⟨call, hcall, rfl⟩ := h
  rw [List.take_add_one, hcall, after_append]
  exact serves _ call

theorem turns_take (s : ResponseSink) (calls : List SinkCall) (i : Nat) :
    (s.turns calls).take i = s.turns (calls.take i) := by
  induction calls generalizing s i with
  | nil => simp
  | cons call calls ih =>
    cases i with
    | zero => rfl
    | succ i => rw [turns_cons, List.take_succ_cons, List.take_succ_cons, turns_cons, ih]

theorem map_call_turns (s : ResponseSink) (calls : List SinkCall) :
    (s.turns calls).map (·.call) = calls := by
  induction calls generalizing s with
  | nil => rfl
  | cons call calls ih =>
    rw [turns_cons, List.map_cons, ih]
    rfl

theorem after_of_finished (h : s.progress = .finished) (calls : List SinkCall) :
    s.after calls = s := by
  induction calls with
  | nil => rfl
  | cons call calls ih => rw [after_cons, serve_of_finished h, ih]

theorem receipts_of_finished (h : s.progress = .finished) (calls : List SinkCall) :
    (s.turns calls).filterMap SinkTurn.receipt? = [] := by
  induction calls with
  | nil => rfl
  | cons call calls ih =>
    have hrefused : (s.turn call).receipt? = none := by
      rw [SinkTurn.receipt?, ((serves s call).of_finished h).2.1, SinkCall.receipt?_failed]
    rw [filterMap_turns_cons, hrefused, serve_of_finished h, ih]
    rfl

/-- The channel has been asked what the turns say, in order, and has received their chunks. -/
theorem channel_after (s : ResponseSink) (calls : List SinkCall) :
    (s.after calls).channel = s.channel.after ((s.turns calls).flatMap (·.exchanges))
      ((s.turns calls).filterMap SinkTurn.delivered?) := by
  induction calls generalizing s with
  | nil => simp
  | cons call calls ih =>
    rw [after_cons, ih, (serves s call).channel, Channel.after_after, filterMap_turns_cons,
      turns_cons, List.flatMap_cons]

theorem forward_after (s : ResponseSink) (calls : List SinkCall) :
    way.idxOf s.phase ≤ way.idxOf (s.after calls).phase := by
  induction calls generalizing s with
  | nil => exact Nat.le_refl _
  | cons call calls ih => exact Nat.le_trans (serves s call).forward (ih _)

theorem length_receipts_le (s : ResponseSink) (calls : List SinkCall) :
    ((s.turns calls).filterMap SinkTurn.receipt?).length ≤ 1 := by
  induction calls generalizing s with
  | nil => simp
  | cons call calls ih =>
    rw [filterMap_turns_cons]
    cases hr : (s.turn call).receipt? with
    | none => exact ih _
    | some receipt =>
      -- the receipt has finished the response, so there is no other one
      have hdone := ((serves s call).of_receipt hr).1
      rw [receipts_of_finished hdone]
      exact Nat.le_refl 1

/-- A response is finished just if it was, or there has been a receipt. -/
theorem finished_after_iff (s : ResponseSink) (calls : List SinkCall) :
    (s.after calls).progress = .finished ↔
      s.progress = .finished ∨ ∃ t ∈ s.turns calls, t.receipt? ≠ none := by
  induction calls generalizing s with
  | nil => simp
  | cons call calls ih =>
    rw [after_cons, ih, turns_cons]
    cases hr : (s.turn call).receipt? with
    | none => simp [(serves s call).of_none hr, hr]
    | some receipt => simp [((serves s call).of_receipt hr).1, hr]

end ResponseSink

open ResponseSink

/-- How calls that are made of a sink come out. A moment is told by the number of calls that
have been made. -/
structure Delivers (s₀ : ResponseSink) (calls : List SinkCall) : Prop where
  /-- Each call has its turn. -/
  turns : (s₀.turns calls).map (·.call) = calls
  /-- The channel receives the chunks for which it had room and which it took, as they are and
  in the order of the calls. -/
  received : (s₀.after calls).channel.received
    = s₀.channel.received ++ (s₀.turns calls).filterMap SinkTurn.delivered?
  /-- Nothing is asked of the channel but what the turns say. The last that was asked comes
  first in the record of the channel. -/
  asked : (s₀.after calls).channel.calls
    = (asked ((s₀.turns calls).flatMap (·.exchanges))).reverse ++ s₀.channel.calls
  /-- Until there is a receipt, a call asks for its operations up to the first that fails, and
  is answered accordingly. -/
  carriedOut : ∀ i t, (s₀.turns calls)[i]? = some t →
    (∀ t' ∈ (s₀.turns calls).take i, t'.receipt? = none) →
    t.exchanges = (s₀.after (calls.take i)).channel.exchanges t.call.operations ∧
      t.reply = t.call.answer (s₀.after (calls.take i)).bytesWritten (failure? t.exchanges)
  /-- The phases are those of the way, and none comes after a later one. -/
  forward : ∀ i j, i ≤ j →
    (s₀.after (calls.take i)).phase ∈ way ∧ (s₀.after (calls.take j)).phase ∈ way ∧
      way.idxOf (s₀.after (calls.take i)).phase ≤ way.idxOf (s₀.after (calls.take j)).phase
  /-- The response is flushed just when there has been a receipt. -/
  flushed : ∀ i, (s₀.after (calls.take i)).phase = .flushed ↔
    ∃ t ∈ (s₀.turns calls).take i, t.receipt? ≠ none
  /-- There is one receipt at most. -/
  once : ((s₀.turns calls).filterMap SinkTurn.receipt?).length ≤ 1
  /-- After it every call is refused and nothing is asked of the channel, so that the sink and
  what has been received stay as they are. -/
  sealed : ∀ i t, (s₀.turns calls)[i]? = some t → t.receipt? ≠ none → ∀ j, i < j →
    s₀.after (calls.take j) = s₀.after (calls.take (i + 1)) ∧
      ∀ t', (s₀.turns calls)[j]? = some t' →
        t'.reply = t'.call.failed .alreadyFinished ∧ t'.exchanges = []
  /-- A close that fails gives no receipt, and does not finish the response. -/
  unclosed : ∀ i t message, (s₀.turns calls)[i]? = some t →
    ⟨.close, some message⟩ ∈ t.exchanges →
    t.reply = .finished (.error (.stream message)) ∧
      (s₀.after (calls.take (i + 1))).phase = (s₀.after (calls.take i)).phase ∧
      (s₀.after (calls.take (i + 1))).phase ≠ .flushed

/-- Let a response be sent over any channel, whatever operations of it fail. The channel
receives the chunks that it took, unaltered and in order. The phases go from start to flushed
and never back. There is no more than one receipt; after it all calls are refused and the
channel is left alone, so that nothing is received any more. A finish whose close fails gives
none and leaves the response unfinished. -/
theorem delivers_of_calls (channel : Channel) (marks : Marks) (calls : List SinkCall) :
    Delivers { channel, marks } calls := by
  let s₀ : ResponseSink := { channel, marks }
  -- A receipt tells that the sink is finished, and there is none before.
  have hflushed : ∀ i, (s₀.after (calls.take i)).progress = .finished ↔
      ∃ t ∈ (s₀.turns calls).take i, t.receipt? ≠ none := by
    intro i
    rw [finished_after_iff, turns_take]
    exact or_iff_right nofun
  refine ⟨map_call_turns s₀ calls, ?_, ?_, ?_, ?_, ?_, length_receipts_le s₀ calls, ?_, ?_⟩
  · exact congrArg Channel.received (channel_after s₀ calls)
  · exact congrArg Channel.calls (channel_after s₀ calls)
  · intro i t ht hnone
    have hs : (s₀.after (calls.take i)).progress ≠ .finished := by
      rw [Ne, hflushed]
      rintro ⟨t', ht', hreceipt⟩
      exact hreceipt (hnone t' ht')
    refine ⟨?_, (serves_of_turn s₀ ht).reply hs⟩
    rw [getElem?_turns, Option.map_eq_some_iff] at ht
    obtain ⟨call, -, rfl⟩ := ht
    exact if_neg hs
  · intro i j hij
    refine ⟨phase_mem_way _, phase_mem_way _, ?_⟩
    show way.idxOf (s₀.after _).phase ≤ way.idxOf (s₀.after _).phase
    rw [after_take_of_le s₀ hij]
    exact forward_after _ _
  · intro i
    exact phase_eq_flushed_iff.trans (hflushed i)
  · intro i t ht hreceipt j hij
    obtain ⟨receipt, hr⟩ := Option.ne_none_iff_exists'.mp hreceipt
    have hdone : (s₀.after (calls.take (i + 1))).progress = .finished :=
      ((serves_of_turn s₀ ht).of_receipt hr).1
    have hsame : s₀.after (calls.take j) = s₀.after (calls.take (i + 1)) := by
      rw [after_take_of_le s₀ hij, after_of_finished hdone]
    refine ⟨hsame, ?_⟩
    intro t' ht'
    have hturn := serves_of_turn s₀ ht'
    rw [hsame] at hturn
    exact (hturn.of_finished hdone).2
  · intro i t message ht hm
    obtain ⟨hreply, hleft, hs⟩ := (serves_of_turn s₀ ht).of_unclosed hm
    have hphase : (s₀.after (calls.take (i + 1))).phase = (s₀.after (calls.take i)).phase := by
      rw [hleft]
      rfl
    refine ⟨hreply, hphase, ?_⟩
    show (s₀.after _).phase ≠ _
    rw [hphase, Ne, phase_eq_flushed_iff]
    exact hs

end EdgeRender.Stream
