import EdgeRender.Proofs.Stream.Delivery

/-! # The bytes of a response

A sink counts the bytes of a chunk when its delivery has gone through, and not when it failed.
But the channel has received a chunk as soon as it took it: if only the flush fails, the client
gets bytes that are not in the count. `counted_of_calls` says by how much the count and the
receipt fall short of what was received, and `counted_unflushed` that they do.
-/
namespace EdgeRender.Stream

open Exchange

/-- The chunk that a turn handed over, if it was not flushed. -/
def SinkTurn.unflushed? (t : SinkTurn) : Option (List UInt8) :=
  if ⟨.flush, none⟩ ∈ t.exchanges then none else t.delivered?

namespace ResponseSink

variable {s s' : ResponseSink} {t : SinkTurn}

/-- What a turn adds to the count is what was received in it, less what was not flushed. -/
theorem Serves.bytes (h : s.Serves t s') :
    s'.bytesWritten + t.unflushed?.toList.flatten.length
      = s.bytesWritten + t.delivered?.toList.flatten.length := by
  cases h with
  | refused hs => simp [SinkTurn.unflushed?, SinkTurn.delivered?]
  | sent hs hc he hes => simp [SinkTurn.unflushed?, SinkTurn.delivered?, hes, hc, handsOver]
  | broken hs hc he hf hflush => simp [SinkTurn.unflushed?, hflush]
  | closed hs hr => rfl
  | unclosed hs hr => rfl

theorem bytes_after (s : ResponseSink) (calls : List SinkCall) :
    (s.after calls).bytesWritten + ((s.turns calls).filterMap SinkTurn.unflushed?).flatten.length
      = s.bytesWritten + ((s.turns calls).filterMap SinkTurn.delivered?).flatten.length := by
  induction calls generalizing s with
  | nil => rfl
  | cons call calls ih =>
    have hturn := (serves s call).bytes
    have hrest := ih (s.serve call).2
    simp only [filterMap_turns_cons, List.flatten_append, List.length_append, after_cons]
    omega

/-- A receipt tells the bytes that have been counted in the end. -/
theorem bytes_of_receipt (s : ResponseSink) {calls : List SinkCall} (ht : t ∈ s.turns calls)
    {receipt : Receipt} (hr : t.receipt? = some receipt) :
    receipt.bytes = (s.after calls).bytesWritten := by
  obtain ⟨i, hi⟩ := List.mem_iff_getElem?.mp ht
  obtain ⟨hdone, hbytes⟩ := (serves_of_turn s hi).of_receipt hr
  have hlt : i + 1 ≤ calls.length := by
    have hlt := (List.getElem?_eq_some_iff.mp hi).1
    rwa [← List.length_map (·.call), map_call_turns] at hlt
  have hend : s.after (calls.take calls.length) = s.after (calls.take (i + 1)) := by
    rw [after_take_of_le s hlt, after_of_finished hdone]
  rw [List.take_length] at hend
  rw [hbytes, hend]

end ResponseSink

open ResponseSink

/-- Let a response be sent over any channel, whatever operations of it fail. After any calls,
the bytes that the sink has counted and those of the chunks that were taken but not flushed
are together the bytes received. So the count is right just if nothing but empty chunks was
left unflushed. A receipt tells the count, which nothing changes any more. -/
theorem counted_of_calls (channel : Channel) (marks : Marks) (calls : List SinkCall) :
    let s₀ : ResponseSink := { channel, marks }
    let s := s₀.after calls
    let received := ((s₀.turns calls).filterMap SinkTurn.delivered?).flatten
    let unflushed := ((s₀.turns calls).filterMap SinkTurn.unflushed?).flatten
    s.channel.received.flatten = channel.received.flatten ++ received ∧
      s.bytesWritten + unflushed.length = received.length ∧
      (s.bytesWritten = received.length ↔ unflushed = []) ∧
      ∀ t ∈ s₀.turns calls, ∀ receipt, t.receipt? = some receipt →
        receipt.bytes = s.bytesWritten := by
  intro s₀ s received unflushed
  have hbalance : s.bytesWritten + unflushed.length = received.length := by
    have h := bytes_after s₀ calls
    rwa [show s₀.bytesWritten = 0 from rfl, Nat.zero_add] at h
  refine ⟨?_, hbalance, ?_, fun t ht receipt hr => bytes_of_receipt s₀ ht hr⟩
  · have hreceived := congrArg Channel.received (channel_after s₀ calls)
    rw [hreceived, Channel.received_after, List.flatten_append]
  · rw [← List.length_eq_zero_iff]
    omega

/-- Three bytes are received whose flush fails. They are not counted, and the receipt tells
that the response has none. -/
theorem counted_unflushed :
    let s₀ : ResponseSink := { channel := { faults := [⟨.flush, 0, "broken pipe"⟩] } }
    let calls : List SinkCall := [.sendHtml "abc", .finish]
    (s₀.after [.sendHtml "abc"]).channel.received.flatten.length = 3 ∧
      (s₀.after [.sendHtml "abc"]).bytesWritten = 0 ∧
      (s₀.after calls).channel.received.flatten.length = 3 ∧
      (s₀.turns calls).filterMap SinkTurn.receipt? = [⟨0⟩] := by
  decide +kernel

end EdgeRender.Stream
