import EdgeRender.Stream.Channel
import Mathlib.Data.List.Basic

/-! # Exchanges with a channel

Operations are asked of a channel one after another, up to the first that fails. What was
asked, and what failed of it, are the exchanges: all that a sender can know of the channel.
A chunk is received just if room was given for it and it was handed over; that it was flushed
as well is another matter.
-/
namespace EdgeRender.Stream

/-- An operation that was asked of a channel, and why it failed if it did. -/
structure Exchange where
  operation : Operation
  failure : Option String := none
  deriving DecidableEq, Repr

namespace Exchange

def asked (es : List Exchange) : List Operation :=
  es.map (·.operation)

/-- Why the last of the exchanges failed, if it did. -/
def failure? (es : List Exchange) : Option String :=
  es.findSome? (·.failure)

/-- Was room given for a chunk, and was the chunk taken? -/
def handsOver (es : List Exchange) : Bool :=
  ⟨.ready, none⟩ ∈ es ∧ ⟨.send, none⟩ ∈ es

@[simp] theorem asked_nil : asked [] = [] := rfl

@[simp] theorem asked_cons (e : Exchange) (es : List Exchange) :
    asked (e :: es) = e.operation :: asked es := rfl

@[simp] theorem handsOver_nil : handsOver [] = false := rfl

end Exchange

namespace Channel

open Exchange

/-- Ask operations of a channel, up to the first that fails. -/
def exchanges (c : Channel) : List Operation → List Exchange
  | [] => []
  | op :: ops =>
    match c.call op with
    | (.error message, _) => [⟨op, some message⟩]
    | (.ok (), c) => ⟨op, none⟩ :: c.exchanges ops

/-- The channel after exchanges through which chunks were received. -/
def after (c : Channel) (es : List Exchange) (chunks : List (List UInt8)) : Channel :=
  { c with calls := (asked es).reverse ++ c.calls, received := c.received ++ chunks }

@[simp] theorem after_nil (c : Channel) : c.after [] [] = c := by
  simp [after]

theorem after_after (c : Channel) (es es' : List Exchange)
    (chunks chunks' : List (List UInt8)) :
    (c.after es chunks).after es' chunks' = c.after (es ++ es') (chunks ++ chunks') := by
  simp [after, asked]

@[simp] theorem received_after (c : Channel) (es : List Exchange) (chunks : List (List UInt8)) :
    (c.after es chunks).received = c.received ++ chunks := rfl

/-- Why a call fails now, if it does. -/
def refusal? (c : Channel) (op : Operation) : Option String :=
  (c.fault? op).or
    (if op = .ready ∧ c.receiverGone then some "send failed because receiver is gone" else none)

/-- A call is answered, and counted in any case; nothing else changes. -/
theorem call_eq (c : Channel) (op : Operation) :
    c.call op = ((c.refusal? op).elim (.ok ()) .error, c.after [⟨op, c.refusal? op⟩] []) := by
  unfold call refusal?
  cases c.fault? op with
  | some message => simp [after]
  | none =>
    dsimp only [Option.none_or]
    split <;> simp [after]

theorem call_cases (c : Channel) (op : Operation) :
    c.call op = (.ok (), c.after [⟨op, none⟩] []) ∨
      ∃ message, c.call op = (.error message, c.after [⟨op, some message⟩] []) := by
  rw [call_eq]
  cases c.refusal? op with
  | none => exact .inl rfl
  | some message => exact .inr ⟨message, rfl⟩

theorem exchanges_of_error {c c' : Channel} {op : Operation} {message : String}
    (h : c.call op = (.error message, c')) (ops : List Operation) :
    c.exchanges (op :: ops) = [⟨op, some message⟩] := by
  rw [exchanges, h]

theorem exchanges_of_ok {c c' : Channel} {op : Operation} (h : c.call op = (.ok (), c'))
    (ops : List Operation) : c.exchanges (op :: ops) = ⟨op, none⟩ :: c'.exchanges ops := by
  rw [exchanges, h]

/-- What is asked first is asked in any case. -/
theorem mem_asked_exchanges (c : Channel) (op : Operation) (ops : List Operation) :
    op ∈ asked (c.exchanges (op :: ops)) := by
  rcases c.call_cases op with h | ⟨message, h⟩
  · rw [exchanges_of_ok h]
    exact List.mem_cons_self
  · rw [exchanges_of_error h]
    exact List.mem_cons_self

/-- Nothing is asked but what was to be asked. -/
theorem operation_mem_of_mem {c : Channel} {ops : List Operation} {e : Exchange}
    (h : e ∈ c.exchanges ops) : e.operation ∈ ops := by
  induction ops generalizing c with
  | nil => cases h
  | cons op ops ih =>
    rcases c.call_cases op with hcall | ⟨message, hcall⟩
    · rw [exchanges_of_ok hcall] at h
      rcases List.mem_cons.mp h with rfl | h
      · exact List.mem_cons_self
      · exact List.mem_cons_of_mem _ (ih h)
    · rw [exchanges_of_error hcall] at h
      obtain rfl := List.mem_singleton.mp h
      exact List.mem_cons_self

theorem exchanges_singleton (c : Channel) (op : Operation) :
    c.exchanges [op] = [⟨op, c.refusal? op⟩] := by
  rw [exchanges, call_eq]
  cases c.refusal? op <;> rfl

/-- What has been received makes no difference to an answer. -/
theorem exchanges_after (c : Channel) (chunks : List (List UInt8)) (op : Operation) :
    (c.after [] chunks).exchanges [op] = c.exchanges [op] := by
  rw [exchanges_singleton, exchanges_singleton]
  rfl

theorem send_of_ok {c c' : Channel} (h : c.call .send = (.ok (), c')) (chunk : List UInt8) :
    c.send chunk = (.ok (), c'.after [] [chunk]) := by
  rw [send, h]
  rfl

theorem send_of_error {c c' : Channel} {message : String}
    (h : c.call .send = (.error message, c')) (chunk : List UInt8) :
    c.send chunk = (.error message, c') := by
  rw [send, h]

/-- A chunk is delivered by asking for room, handing it over and flushing, up to the first
failure. It is received if it was handed over, whatever came of the flush. -/
theorem deliver_cases (c : Channel) (chunk : List UInt8) :
    let es := c.exchanges [.ready, .send, .flush]
    (es = [⟨.ready, none⟩, ⟨.send, none⟩, ⟨.flush, none⟩] ∧
        c.deliver chunk = (.ok (), c.after es [chunk])) ∨
      ∃ message, failure? es = some message ∧ ⟨.flush, none⟩ ∉ es ∧
        c.deliver chunk = (.error message, c.after es (if handsOver es then [chunk] else [])) := by
  intro es
  unfold deliver
  rcases c.call_cases .ready with h₁ | ⟨message, h₁⟩
  · have hes : es = ⟨.ready, none⟩ :: _ := exchanges_of_ok h₁ _
    rw [h₁]
    dsimp only
    rcases (c.after [⟨.ready, none⟩] []).call_cases .send with h₂ | ⟨message, h₂⟩
    · -- the chunk has been received when the flush is asked for
      rw [exchanges_of_ok h₂, ← exchanges_after _ [chunk]] at hes
      rw [send_of_ok h₂]
      dsimp only
      rcases ((c.after [⟨.ready, none⟩] []).after [⟨.send, none⟩] [] |>.after [] [chunk]).call_cases
        .flush with h₃ | ⟨message, h₃⟩
      · rw [exchanges_of_ok h₃] at hes
        rw [h₃, hes]
        exact .inl ⟨rfl, by simp [exchanges, after_after]⟩
      · rw [exchanges_of_error h₃] at hes
        rw [h₃, hes]
        exact .inr ⟨message, rfl, by simp, by simp [after_after, handsOver]⟩
    · rw [exchanges_of_error h₂] at hes
      rw [send_of_error h₂, hes]
      exact .inr ⟨message, rfl, by simp, by simp [after_after, handsOver]⟩
  · have hes : es = [⟨.ready, some message⟩] := exchanges_of_error h₁ _
    rw [h₁, hes]
    exact .inr ⟨message, rfl, by simp, by simp [handsOver]⟩

/-- In whatever way the first calls of each operation are to fail, a plan says so. -/
theorem exists_faults (pattern : Operation → Nat → Option String) (n : Nat) :
    ∃ faults, ∀ c : Channel, c.faults = faults → c.receiverGone = false →
      ∀ op, c.count op < n → c.refusal? op = pattern op (c.count op) := by
  -- The plan lists the calls that are to fail, so a look-up finds the one of the same number.
  let row (op : Operation) : List Fault :=
    (List.range n).filterMap fun k => (pattern op k).map (Fault.mk op k)
  have hmem : ∀ f, f ∈ Operation.all.flatMap row ↔
      f.nth < n ∧ pattern f.operation f.nth = some f.message := by
    rintro ⟨op, k, message⟩
    have hop : op ∈ Operation.all := by cases op <;> decide
    simp only [List.mem_flatMap, row, List.mem_filterMap, List.mem_range, Option.map_eq_some_iff,
      Fault.mk.injEq]
    constructor
    · rintro ⟨_, -, _, hk, _, hp, rfl, rfl, rfl⟩
      exact ⟨hk, hp⟩
    · rintro ⟨hk, hp⟩
      exact ⟨op, hop, k, hk, message, hp, rfl, rfl, rfl⟩
  refine ⟨Operation.all.flatMap row, ?_⟩
  intro c hfaults hgone op hcount
  have hfault : c.fault? op = pattern op (c.count op) := by
    unfold fault?
    rw [hfaults]
    cases hfind : (Operation.all.flatMap row).find? _ with
    | none =>
      cases hp : pattern op (c.count op) with
      | none => rfl
      | some message =>
        have hnone := List.find?_eq_none.mp hfind ⟨op, c.count op, message⟩
          ((hmem _).mpr ⟨hcount, hp⟩)
        simp at hnone
    | some f =>
      have hkey := List.find?_some hfind
      have hplanned := ((hmem f).mp (List.mem_of_find?_eq_some hfind)).2
      simp only [Bool.and_eq_true, beq_iff_eq] at hkey
      rw [hkey.1, hkey.2] at hplanned
      exact hplanned.symm
  simp [refusal?, hfault, hgone]

end Channel
end EdgeRender.Stream
