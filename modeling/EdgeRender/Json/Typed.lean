import EdgeRender.Json.Reader

/-! # Reading values of known types

Readers for strings, numbers, lists, choices among names, and records. A record may be
written as an object, with its fields in any order among members of other names, or as
an array of its fields in their order.
-/
namespace EdgeRender.Json

/-- Refuse the value at hand where `expected` stands for the wanted type. Simple values
are consumed first; brackets are not. -/
def unexpected (expected : String) : Reader α := do
  let refuseType (found : Found) : Reader α := settled (raise (.wrongType found expected))
  match ← peek? with
  | none => refuseNext .expectedValue
  | some b =>
    if b = 'n'.toUInt8 then do nullWord; refuseType .null
    else if b = 't'.toUInt8 then do trueWord; refuseType (.boolean true)
    else if b = 'f'.toUInt8 then do falseWord; refuseType (.boolean false)
    else if startsNumber b then do refuseType (.number (← number))
    else if b = quoteMark then do
      skipByte
      refuseType (.string (← stringBody))
    else if b = openBracket then refuseType .sequence
    else if b = openBrace then refuseType .map
    else refuseNext .expectedValue

def string : Reader String := do
  if (← peekValue) = quoteMark then
    skipByte
    stringBody
  else unexpected "a string"

def boolean : Reader Bool := do
  let b ← peekValue
  if b = 't'.toUInt8 then do trueWord; pure true
  else if b = 'f'.toUInt8 then do falseWord; pure false
  else unexpected "a boolean"

def natural (bits : Nat) : Reader Nat := do
  let expected := s!"u{bits}"
  if startsNumber (← peekValue) then
    match ← number with
    | .integer i =>
      if 0 ≤ i ∧ i.toNat < Nat.pow 2 bits then pure i.toNat
      else settled (raise (.wrongValue (.number (.integer i)) expected))
    | .float x => settled (raise (.wrongType (.number (.float x)) expected))
  else unexpected expected

def nullable (item : Reader α) : Reader (Option α) := do
  if (← peekToken?) = some 'n'.toUInt8 then
    nullWord
    pure none
  else some <$> item

def list (item : Reader α) : Reader (List α) := do
  if (← peekValue) = openBracket then arrayOf item
  else unexpected "a sequence"

def unit : Reader Unit := do
  if (← peekValue) = 'n'.toUInt8 then nullWord
  else unexpected "unit"

/-- The value that a name stands for, the opening quote of the name being next. -/
def variant (known : List (String × α)) : Reader α :=
  settled do
    skipByte
    let name ← stringBody
    match known.lookup name with
    | some x => pure x
    | none => raise (.unknownVariant name (known.map Prod.fst))

/-- Refuse unless a member follows: a choice has one, and its key is a string. -/
def expectMember : Reader Unit := do
  match ← peekToken? with
  | none => refuseNext .endOfObject
  | some b =>
    if b = quoteMark then pure ()
    else if b = closeBrace then refuseNext .expectedValue
    else refuseNext .keyMustBeString

/-- One of several names, as a string or as the only member of an object, with null
behind it. -/
def choice (known : List (String × α)) : Reader α := do
  match ← peekToken? with
  | none => refuseNext .endOfValue
  | some b =>
    if b = quoteMark then variant known
    else if b = openBrace then
      skipByte
      expectMember
      let x ← variant known
      colon
      unit
      match ← peekToken? with
      | none => refuse .endOfObject
      | some b =>
        if b = closeBrace then
          skipByte
          pure x
        else refuse .expectedValue
    else refuseNext .expectedValue

/-- A field of records of type `σ`: how its value is read and stored, and whether it
may be left out of an object or at the end of an array. -/
structure Field (σ : Type) where
  name : String
  read : Reader (σ → σ)
  needed : Bool
  neededByPlace : Bool

/-- The members of a record behind its opening brace; `seen` holds the names of the
fields that have been given. -/
def recordMembers (fields : List (Field σ)) : Nat → Bool → List String → σ →
    Reader (List String × σ)
  | 0, _, _, _ => refuse .endOfObject
  | bound + 1, first, seen, x => do
    match ← nextKey? first with
    | none => pure (seen, x)
    | some key =>
      match fields.find? (·.name == key) with
      | some field =>
        if key ∈ seen then raise (.duplicateField key)
        else
          colon
          let set ← field.read
          recordMembers fields bound false (key :: seen) (set x)
      | none =>
        colon
        skipValue
        recordMembers fields bound false seen x

def missingField? (fields : List (Field σ)) (seen : List String) : Option String :=
  (fields.find? fun f => f.needed && !seen.contains f.name).map (·.name)

def recordObject (fields : List (Field σ)) (x : σ) : Reader σ := do
  skipByte
  closing Cursor.pastObject closeObject do
    let (seen, x) ← recordMembers fields ((← bytesLeft) + 1) true [] x
    match missingField? fields seen with
    | some name => raise (.missingField name)
    | none => pure x

/-- The fields of a record behind its opening bracket. -/
def recordItems (expected : String) : List (Field σ) → Nat → Bool → σ → Reader σ
  | [], _, _, x => pure x
  | field :: fields, index, first, x => do
    if ← nextItem first then
      let set ← field.read
      recordItems expected fields (index + 1) false (set x)
    else if field.neededByPlace then raise (.wrongLength index expected)
    else recordItems expected fields (index + 1) first x

/-- A record called `name`, its fields beginning with the values of `x`. -/
def record (name : String) (fields : List (Field σ)) (x : σ) : Reader σ := do
  let b ← peekValue
  if b = openBrace then recordObject fields x
  else if b = openBracket then
    skipByte
    closing Cursor.pastArray closeArray
      (recordItems s!"struct {name} with {fields.length} elements" fields 0 true x)
  else unexpected s!"struct {name}"

end EdgeRender.Json
