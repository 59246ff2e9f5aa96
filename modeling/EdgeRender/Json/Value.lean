import EdgeRender.Decimal.Shortest
import EdgeRender.Text.Hex

/-! # JSON values and their compact text

A value keeps the members of an object in the order in which they are written. The
text has no blank outside strings; in strings only quotes, backslashes and control
characters below U+0020 are escaped.
-/
namespace EdgeRender.Json

open EdgeRender.Text EdgeRender.Decimal

/-- A number: whole numbers of 64 bits stay whole, all others are binary64. -/
inductive Number where
  | integer (i : Int)
  | float (x : Binary64)
  deriving DecidableEq, Repr

def Number.text : Number → String
  | .integer i => toString i
  | .float x => x.text

inductive Value where
  | null
  | boolean (b : Bool)
  | number (n : Number)
  | string (s : String)
  | array (items : List Value)
  | object (members : List (String × Value))
  deriving Repr

instance : Inhabited Value := ⟨.null⟩

def Value.natural (n : Nat) : Value :=
  .number (.integer n)

def escapeChar (c : Char) : List Char :=
  if c = '"' then ['\\', '"']
  else if c = '\\' then ['\\', '\\']
  else if c = '\n' then ['\\', 'n']
  else if c = '\r' then ['\\', 'r']
  else if c = '\t' then ['\\', 't']
  else if c.val = 0x08 then ['\\', 'b']
  else if c.val = 0x0C then ['\\', 'f']
  else if c.val < 0x20 then
    ['\\', 'u', '0', '0', hexDigit (c.toNat / 16), hexDigit (c.toNat % 16)]
  else [c]

def writeString (s : String) : List Char :=
  '"' :: s.toList.flatMap escapeChar ++ ['"']

mutual

/-- The characters of the compact text. -/
def Value.write : Value → List Char
  | .null => "null".toList
  | .boolean true => "true".toList
  | .boolean false => "false".toList
  | .number n => n.text.toList
  | .string s => writeString s
  | .array [] => ['[', ']']
  | .array (x :: xs) => '[' :: x.write ++ writeItems xs ++ [']']
  | .object [] => ['\x7b', '\x7d']
  | .object ((k, v) :: ms) =>
    '\x7b' :: writeString k ++ ':' :: v.write ++ writeMembers ms ++ ['\x7d']

/-- The items after the first, each behind a comma. -/
def writeItems : List Value → List Char
  | [] => []
  | x :: xs => ',' :: x.write ++ writeItems xs

/-- The members after the first, each behind a comma. -/
def writeMembers : List (String × Value) → List Char
  | [] => []
  | (k, v) :: ms => ',' :: writeString k ++ ':' :: v.write ++ writeMembers ms

end

def Value.text (v : Value) : String :=
  .ofList v.write

/-- Looking a name up finds the first member of that name. -/
theorem lookup_member (k k' : String) (v : α) (ms : List (String × α)) :
    ((k', v) :: ms).lookup k = if k = k' then some v else ms.lookup k := by
  by_cases h : k = k'
  · simp [h]
  · simp [List.lookup_cons, beq_eq_false_iff_ne.2 h, h]

/-- Put a member into a list ordered by name; a member of the same name is replaced. -/
def insertMember (k : String) (v : α) : List (String × α) → List (String × α)
  | [] => [(k, v)]
  | (k', v') :: ms =>
    if k < k' then (k, v) :: (k', v') :: ms
    else if k = k' then (k, v) :: ms
    else (k', v') :: insertMember k v ms

theorem lookup_insertMember (k : String) (v : α) (ms : List (String × α)) (k₀ : String) :
    (insertMember k v ms).lookup k₀ = if k₀ = k then some v else ms.lookup k₀ := by
  induction ms with
  | nil => exact lookup_member k₀ k v []
  | cons m ms ih =>
    obtain ⟨k', v'⟩ := m
    unfold insertMember
    split
    · exact lookup_member k₀ k v _
    · split
      · next h =>
        rw [lookup_member, lookup_member, ← h]
        split <;> rfl
      · next h =>
        rw [lookup_member, lookup_member, ih]
        by_cases h₁ : k₀ = k' <;> by_cases h₂ : k₀ = k <;> simp_all

end EdgeRender.Json
