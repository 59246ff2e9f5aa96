/-! # Channels

What carries the bytes of a response to the client. Sending a chunk takes three calls,
and each call may fail. A plan says which calls fail, so that every failure can be
studied.
-/
namespace EdgeRender.Stream

inductive Operation where
  /-- Ask for room for one more chunk. -/
  | ready
  /-- Hand over a chunk. -/
  | send
  | flush
  | close
  deriving DecidableEq, Repr

namespace Operation

def all : List Operation := [.ready, .send, .flush, .close]

def name : Operation → String
  | .ready => "ready"
  | .send => "send"
  | .flush => "flush"
  | .close => "close"

end Operation

/-- A call that fails: the `nth` of its kind, counted from zero. -/
structure Fault where
  operation : Operation
  nth : Nat
  message : String
  deriving DecidableEq, Repr

/-- A channel: its plan of failures, the calls made so far, and the chunks that have
been received. -/
structure Channel where
  faults : List Fault := []
  calls : List Operation := []
  receiverGone : Bool := false
  received : List (List UInt8) := []
  deriving Repr

namespace Channel

def count (c : Channel) (op : Operation) : Nat :=
  c.calls.count op

def fault? (c : Channel) (op : Operation) : Option String :=
  (c.faults.find? fun f => f.operation == op && f.nth == c.count op).map (·.message)

/-- Call an operation. A planned failure does nothing else; no room is left once the
receiver is gone. -/
def call (c : Channel) (op : Operation) : Except String Unit × Channel :=
  let next := { c with calls := op :: c.calls }
  match c.fault? op with
  | some message => (.error message, next)
  | none =>
    if op = .ready ∧ c.receiverGone then
      (.error "send failed because receiver is gone", next)
    else (.ok (), next)

@[simp] theorem received_call (c : Channel) (op : Operation) :
    (c.call op).2.received = c.received := by
  unfold call
  split
  · rfl
  · dsimp only
    split <;> rfl

/-- Every call counts, also one that fails. -/
@[simp] theorem calls_call (c : Channel) (op : Operation) :
    (c.call op).2.calls = op :: c.calls := by
  unfold call
  split
  · rfl
  · dsimp only
    split <;> rfl

def send (c : Channel) (chunk : List UInt8) : Except String Unit × Channel :=
  match c.call .send with
  | (.ok (), c) => (.ok (), { c with received := c.received ++ [chunk] })
  | failed => failed

def dropReceiver (c : Channel) : Channel := { c with receiverGone := true }

/-- Make room for a chunk, hand it over and flush, up to the first failure. -/
def deliver (c : Channel) (chunk : List UInt8) : Except String Unit × Channel :=
  match c.call .ready with
  | (.error message, c) => (.error message, c)
  | (.ok (), c) =>
    match c.send chunk with
    | (.error message, c) => (.error message, c)
    | (.ok (), c) => c.call .flush

end Channel
end EdgeRender.Stream
