import EdgeRender.Proofs.Json.Spelling

/-! # What written values mean

For each type, what a written value means in it, if it means anything. A reader understands the
values of a type if it reads a value as what it means, and stops at one that means nothing.
-/
namespace EdgeRender.Json

open EdgeRender.Text

/-! ## Kinds of values -/

/-- What can be told of a value by its first byte. -/
inductive Kind where
  | null | boolean (b : Bool) | number | string | array | object
  deriving DecidableEq, Repr

def kind? (b : UInt8) : Option Kind :=
  if b = 'n'.toUInt8 then some .null
  else if b = 't'.toUInt8 then some (.boolean true)
  else if b = 'f'.toUInt8 then some (.boolean false)
  else if startsNumber b then some .number
  else if b = quoteMark then some .string
  else if b = openBracket then some .array
  else if b = openBrace then some .object
  else none

theorem kind?_of_startsNumber {b : UInt8} (h : startsNumber b = true) :
    kind? b = some .number := by
  rw [kind?, if_neg (ne_of_startsNumber h (by decide)), if_neg (ne_of_startsNumber h (by decide)),
    if_neg (ne_of_startsNumber h (by decide)), if_pos h]

namespace Written

@[simp] def kind : Written → Kind
  | null => .null
  | boolean b => .boolean b
  | number _ => .number
  | string _ => .string
  | array _ _ => .array
  | object _ _ => .object

def first (w : Written) : UInt8 := w.bytes.headD 0

variable (w : Written)

theorem bytes_eq_first : ∃ more, w.bytes = w.first :: more := by
  obtain ⟨b, more, hbytes, -⟩ := w.exists_bytes
  exact ⟨more, by rw [first, hbytes]; rfl⟩

theorem leadsValue_first : LeadsValue w.first := by
  obtain ⟨b, more, hbytes, hb⟩ := w.exists_bytes
  rw [first, hbytes]
  exact hb

theorem begins_first (rest : List UInt8) : Begins w.first (w.bytes ++ rest) := by
  obtain ⟨more, hbytes⟩ := w.bytes_eq_first
  rw [hbytes]
  rfl

theorem startsNumber_first (n : Numeral) : startsNumber (number n).first = true := by
  obtain ⟨b, more, hbytes, hb⟩ := n.exists_bytes
  rw [first, Written.bytes, hbytes]
  exact hb

theorem first_string (ps : List Piece) : (string ps).first = quoteMark := rfl

theorem first_array (items : List (Item Written)) (last : Gap) :
    (array items last).first = openBracket :=
  rfl

theorem kind?_first : kind? w.first = some w.kind := by
  cases w with
  | number n => exact kind?_of_startsNumber (startsNumber_first n)
  | boolean b => cases b <;> rfl
  | null | string | array | object => rfl

variable {w}

/-- A value of another kind does not begin with the first byte of a kind. -/
theorem first_ne {b : UInt8} (k : Kind) (hb : kind? b = some k) (h : w.kind ≠ k) :
    w.first ≠ b := by
  rintro rfl
  rw [kind?_first] at hb
  exact h (Option.some.inj hb)

end Written

/-! ## Understanding -/

/-- Behind any blanks, the reader reads a value that means something as what it means, and stops
at any other. -/
def Understands (r : Reader α) (meaning : Written → Option α) : Prop :=
  ∀ (w : Written) (lead : Gap), Ends Separated r (lead.bytes ++ w.bytes) (meaning w)

section Understands

variable {r : Reader α} {meaning : Written → Option α}

/-- Blanks in front of a value may be passed before. -/
theorem Understands.ends (h : Understands r meaning) (w : Written) :
    Ends Separated r w.bytes (meaning w) :=
  h w {}

/-- What a value means may be made into something else. -/
theorem Understands.map (h : Understands r meaning) (f : α → β) :
    Understands (f <$> r) fun w => f <$> meaning w :=
  fun w lead => (h w lead).map f

/-- The first byte of a value is met behind the blanks. -/
theorem Understands.ofToken {f : Option UInt8 → Reader α}
    (h : ∀ w, Ends Separated (f (some w.first)) w.bytes (meaning w)) :
    Understands (peekToken? >>= f) meaning :=
  fun w lead => .token (fun _ => lead.isBlankByte_of_mem) w.leadsValue_first.1
    (fun rest _ => w.begins_first rest) (h w)

theorem Understands.ofFirst {f : UInt8 → Reader α}
    (h : ∀ w, Ends Separated (f w.first) w.bytes (meaning w)) :
    Understands (peekValue >>= f) meaning :=
  fun w lead => .value (fun _ => lead.isBlankByte_of_mem) w.leadsValue_first.1
    (fun rest _ => w.begins_first rest) (h w)

end Understands

/-! ## Brackets -/

section Brackets

variable {P Q : List UInt8 → Prop} {past : Cursor → Cursor} {close : Reader Unit}
  {body : Reader α} {text text' : List UInt8}

theorem Stops.closing (h : Stops P body text) : Stops P (closing past close body) text := by
  intro place rest hP
  obtain ⟨stop, hstop⟩ := h place rest hP
  cases stop <;> exact ⟨_, by simp only [Json.closing, hstop]; rfl⟩

theorem Becomes.closing {x : α} (hbody : Becomes P body text (pure x))
    (hclose : Becomes Q close text' (pure ())) (hrest : ∀ rest, Q rest → P (text' ++ rest)) :
    Becomes Q (closing past close body) (text ++ text') (pure x) := by
  intro place rest hQ
  rw [List.append_assoc, Place.over_append]
  exact closing_of_ok (hbody place _ (hrest rest hQ)) (hclose _ rest hQ)

/-- The end is read behind what stands between the brackets, if that is read. -/
theorem Ends.closing {x? : Option α} (hbody : Ends P body text x?)
    (hclose : Becomes Q close text' (pure ())) (hrest : ∀ rest, Q rest → P (text' ++ rest)) :
    Ends Q (closing past close body) (text ++ text') x? := by
  cases x? with
  | none => exact (Stops.closing hbody).append hrest
  | some x => exact Becomes.closing hbody hclose hrest

theorem Ends.settled {x? : Option α} (h : Ends P body text x?) :
    Ends P (settled body) text x? := by
  have hclosing : Ends P (Json.closing id (pure ()) body) (text ++ []) x? :=
    h.closing (.refl P (pure ())) fun _ => id
  rwa [List.append_nil] at hclosing

theorem alwaysStops_settled_raise (fault : Fault) :
    AlwaysStops (Json.settled (raise fault) : Reader α) :=
  fun _ => ⟨_, rfl⟩

/-- A value of another type is refused, whatever it is. -/
theorem alwaysStops_unexpected (expected : String) :
    AlwaysStops (unexpected expected : Reader α) := by
  refine .bind fun b => ?_
  cases b with
  | none => exact alwaysStops_refuseNext _
  | some b =>
    dsimp only
    split_ifs
    · exact .bind fun _ => alwaysStops_settled_raise _
    · exact .bind fun _ => alwaysStops_settled_raise _
    · exact .bind fun _ => alwaysStops_settled_raise _
    · exact .bind fun _ => alwaysStops_settled_raise _
    · exact .bind fun _ => .bind fun _ => alwaysStops_settled_raise _
    · exact alwaysStops_settled_raise _
    · exact alwaysStops_settled_raise _
    · exact alwaysStops_refuseNext _

end Brackets

/-! ## Strings -/

/-- What a value means as a string. -/
def text? : Written → Option String
  | .string ps => String.ofList <$> spelled? ps
  | _ => none

theorem understands_string : Understands string text? := by
  refine .ofFirst fun w => ?_
  cases w with
  | string ps =>
    rw [if_pos (Written.first_string ps)]
    exact .skip ((ends_stringBody ps).mono fun _ _ => trivial)
  | null | boolean | number | array | object =>
    rw [if_neg (Written.first_ne .string rfl (by simp))]
    exact (alwaysStops_unexpected _).ends _ _

/-! ## Truth values -/

def truth? : Written → Option Bool
  | .boolean b => some b
  | _ => none

/-- What a value means where null may stand for nothing. -/
def orNull? (meaning : Written → Option α) : Written → Option (Option α)
  | .null => some none
  | w => some <$> meaning w

/-- What a value means that can only be null. -/
def nothing? : Written → Option Unit
  | .null => some ()
  | _ => none

theorem becomes_nullWord : Becomes Any nullWord Written.null.bytes (pure ()) := fun _ _ _ => rfl

theorem Understands.nullable {item : Reader α} {meaning : Written → Option α}
    (h : Understands item meaning) : Understands (nullable item) (orNull? meaning) := by
  refine .ofToken fun w => ?_
  cases w with
  | null => exact becomes_nullWord.bind.mono fun _ _ => trivial
  | boolean | number | string | array | object =>
    rw [if_neg (by simpa using Written.first_ne (b := 'n'.toUInt8) .null rfl (by simp))]
    exact (h.ends _).map some

/-- What a value means as a natural number of `bits` bits. It has no sign, fraction or
exponent. -/
def natural? (bits : Nat) : Written → Option Nat
  | .number ⟨false, n, none, none⟩ => if n < 2 ^ bits then some n else none
  | _ => none

/-- The reader gives no whole number but negative ones. -/
def NoNatural (r : Reader Number) : Prop := ∀ c i c', r c = .ok (.integer i, c') → i < 0

theorem NoNatural.bind {r : Reader α} {f : α → Reader Number} (h : ∀ x, NoNatural (f x)) :
    NoNatural (r >>= f) := by
  intro c i c' hc
  change Except.bind (r c) (fun a => f a.1 a.2) = .ok (.integer i, c') at hc
  cases hr : r c with
  | error stop =>
    rw [hr] at hc
    cases hc
  | ok a =>
    rw [hr] at hc
    exact h a.1 a.2 i c' hc

end EdgeRender.Json
