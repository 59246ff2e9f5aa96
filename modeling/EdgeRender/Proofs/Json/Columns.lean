import EdgeRender.Proofs.Json.Nested
import Mathlib.Data.List.Forall2
import Mathlib.Data.List.Nodup

/-! # Records by name

A record is read from an object member by member. What comes of it can be told from the values
given for each of its fields alone, whatever their order and whatever stands between them.
-/
namespace EdgeRender.Json

open EdgeRender.Text

/-! ## Columns -/

/-- A field of records: what its values mean, where it stands in a record, and the value that it
has if none is given. A field without such a value has to be given. -/
structure Column (σ : Type) where
  name : String
  {α : Type}
  meaning : Written → Option α
  get : σ → α
  set : α → σ → σ
  default? : Option α

def given (entries : List (String × Written)) (name : String) : List Written :=
  (entries.filter fun e => e.1 == name).map (·.2)

/-- The record has what the values given for the field mean, or its own value if there are none.
Of several values none counts. -/
def Column.Holds (c : Column σ) (x : σ) : List Written → Prop
  | [] => c.default? = some (c.get x)
  | [w] => c.meaning w = some (c.get x)
  | _ => False

/-- Each field is given once at most, and what is given for it means something. There may be
members of any other names. -/
def Fits (columns : List (Column σ)) (entries : List (String × Written)) : Prop :=
  ∀ c ∈ columns, given entries c.name = [] ∨
    ∃ w, given entries c.name = [w] ∧ (c.meaning w).isSome

/-- The members that belong to columns. -/
def known (columns : List (Column σ)) (entries : List (String × Written)) :
    List (String × Written) :=
  entries.filter fun e => columns.any (·.name == e.1)

section Gathering

variable {columns : List (Column σ)} {start : σ}

end Gathering

/-! ## Reading members -/

/-- The name that the key of a member spells. -/
def Member.name? (m : Member Written) : Option String := String.ofList <$> spelled? m.key

def entries (members : List (Member Written)) : List (String × Written) :=
  members.filterMap fun m => m.name?.map fun name => (name, m.value)

section Record

variable {columns : List (Column σ)} {fields : List (Field σ)}

end Record

/-! ## Documents -/

/-- The text of an object, its members having names. -/
structure Document where
  before : Gap
  members : List (Member Written)
  last : Gap
  behind : Gap
  named : ∀ m ∈ members, m.name?.isSome

def Document.bytes (d : Document) : List UInt8 :=
  (d.before.bytes ++ (Written.object d.members d.last).bytes) ++ d.behind.bytes

def Document.entries (d : Document) : List (String × Written) := Json.entries d.members

/-- Blanks may stand behind a text. -/
theorem finish_gap (behind : Gap) (place : Place) :
    finish ⟨place, behind.bytes⟩ = .ok ((), ⟨place.over behind.bytes, []⟩) := by
  have hskip : skipWhileFrom isBlankByte place (behind.bytes ++ []) =
      ⟨place.over behind.bytes, []⟩ :=
    skipWhileFrom_append (fun _ => behind.isBlankByte_of_mem) (by simp) place
  rw [List.append_nil] at hskip
  have hpeek : peekToken? ⟨place, behind.bytes⟩ = .ok (none, ⟨place.over behind.bytes, []⟩) := by
    have hblanks : skipBlanks ⟨place, behind.bytes⟩ = .ok ((), ⟨place.over behind.bytes, []⟩) := by
      rw [skipBlanks, hskip]
    exact bind_of_ok hblanks
  exact bind_of_ok hpeek

/-- What a whole text is read as. -/
theorem Ends.run {r : Reader α} {text : List UInt8} {x? : Option α} (h : Ends Separated r text x?)
    (behind : Gap) : (r.run (text ++ behind.bytes)).toOption = x? := by
  have hbehind : Separated behind.bytes := by
    simpa using behind.separated_append separated_nil
  cases x? with
  | none =>
    obtain ⟨stop, hstop⟩ := error_bind (h ⟨1, 0⟩ behind.bytes hbehind)
      (f := fun x => do finish; pure x)
    rw [Reader.run, Cursor.start, hstop]
    cases stop <;> rfl
  | some x =>
    have hread := h ⟨1, 0⟩ behind.bytes hbehind
    have hall : (do let x ← r; finish; pure x : Reader α) (.start (text ++ behind.bytes)) =
        .ok (x, ⟨(Place.over ⟨1, 0⟩ text).over behind.bytes, []⟩) := by
      rw [Cursor.start, bind_of_ok hread]
      exact bind_of_ok (finish_gap behind _)
    rw [Reader.run, hall]
    rfl

/-- What a value is read as, with blanks on either side. -/
theorem Understands.run {r : Reader α} {meaning : Written → Option α} (h : Understands r meaning)
    (before : Gap) (w : Written) (behind : Gap) :
    (r.run ((before.bytes ++ w.bytes) ++ behind.bytes)).toOption = meaning w :=
  (h w before).run behind

theorem toOption_eq_some_iff {e : Except ε α} {x : α} : e.toOption = some x ↔ e = .ok x := by
  cases e <;> simp [Except.toOption]

end EdgeRender.Json
