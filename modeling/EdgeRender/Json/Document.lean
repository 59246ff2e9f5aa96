import EdgeRender.Json.Reader

/-! # JSON documents

Reading a text as a value. Members are ordered by name, and of several members of one
name the last is kept. Brackets may nest 127 deep.
-/
namespace EdgeRender.Json

/-- The members of an object behind its opening brace, in the order of the text. -/
def membersFrom (item : Reader α) : Nat → Bool → Reader (List (String × α))
  | 0, _ => refuse .endOfObject
  | bound + 1, first => do
    match ← nextKey? first with
    | none => pure []
    | some key =>
      colon
      let x ← item
      let members ← membersFrom item bound false
      pure ((key, x) :: members)

def objectOf (item : Reader α) : Reader (List (String × α)) := do
  skipByte
  closing Cursor.pastObject closeObject (membersFrom item ((← bytesLeft) + 1) true)

/-- Members ordered by name, the last of each name. -/
def sortMembers (members : List (String × α)) : List (String × α) :=
  members.foldl (fun sorted (k, v) => insertMember k v sorted) []

/-- A value whose inner values `inner?` reads; none are allowed without it. -/
def valueOf (inner? : Option (Reader Value)) : Reader Value := do
  let b ← peekValue
  if b = openBracket then
    match inner? with
    | some inner => .array <$> arrayOf inner
    | none => refuseNext .tooDeep
  else if b = openBrace then
    match inner? with
    | some inner => (fun ms => .object (sortMembers ms)) <$> objectOf inner
    | none => refuseNext .tooDeep
  else if b = 'n'.toUInt8 then do nullWord; pure .null
  else if b = 't'.toUInt8 then do trueWord; pure (.boolean true)
  else if b = 'f'.toUInt8 then do falseWord; pure (.boolean false)
  else if startsNumber b then .number <$> number
  else if b = quoteMark then do
    skipByte
    .string <$> stringBody
  else refuseNext .expectedValue

/-- A value whose brackets nest `depth` deep at most. -/
def value : Nat → Reader Value
  | 0 => valueOf none
  | depth + 1 => valueOf (some (value depth))

def depthLimit : Nat := 127

def parse (bytes : List UInt8) : Except Refusal Value :=
  (value depthLimit).run bytes

end EdgeRender.Json
