import EdgeRender.Json.Typed
import EdgeRender.Toml.Document

/-! # Codecs

How values of a type are written as JSON and read from JSON and from TOML. Codecs of
records are put together from those of their fields.
-/
namespace EdgeRender

/-- The written forms of a type. -/
structure Codec (α : Type) where
  encode : α → Json.Value
  fromJson : Json.Reader α
  fromToml : Toml.Item → Option α

namespace Codec

def jsonText (codec : Codec α) (x : α) : String :=
  (codec.encode x).text

def parseJson (codec : Codec α) (bytes : List UInt8) : Except Json.Refusal α :=
  codec.fromJson.run bytes

def parseToml? (codec : Codec α) (text : List Char) : Option α := do
  codec.fromToml (.table .header (← Toml.parse? text))

def string : Codec String where
  encode := .string
  fromJson := Json.string
  fromToml
    | .text s => some s
    | _ => none

def boolean : Codec Bool where
  encode := .boolean
  fromJson := Json.boolean
  fromToml
    | .boolean b => some b
    | _ => none

def natural (bits : Nat) : Codec Nat where
  encode := .natural
  fromJson := Json.natural bits
  fromToml
    | .integer i => if 0 ≤ i ∧ i.toNat < Nat.pow 2 bits then some i.toNat else none
    | _ => none

def list (item : Codec α) : Codec (List α) where
  encode xs := .array (xs.map item.encode)
  fromJson := Json.list item.fromJson
  fromToml
    | .array items => items.mapM item.fromToml
    | .tables elements => elements.mapM fun es => item.fromToml (.table .header es)
    | _ => none

/-- Null stands for nothing in JSON. TOML has no null. -/
def nullable (item : Codec α) : Codec (Option α) where
  encode
    | some x => item.encode x
    | none => .null
  fromJson := Json.nullable item.fromJson
  fromToml i := some <$> item.fromToml i

def isEmptyItem : Toml.Item → Bool
  | .array items => items.isEmpty
  | .table _ entries => entries.isEmpty
  | .tables elements => elements.isEmpty
  | _ => false

/-- One of several names. In TOML the name may also stand as the only key of a table,
with an empty item behind it. -/
def choice (name : α → String) (all : List α) : Codec α where
  encode x := .string (name x)
  fromJson := Json.choice (all.map fun x => (name x, x))
  fromToml
    | .text s => all.find? (name · == s)
    | .table _ [(key, item)] => if isEmptyItem item then all.find? (name · == key) else none
    | _ => none

structure Field (σ : Type) where
  name : String
  encode? : σ → Option Json.Value
  fromJson : Json.Reader (σ → σ)
  fromToml : Toml.Item → Option (σ → σ)
  needed : Bool
  neededByPlace : Bool

namespace Field

/-- A field that is always written. -/
def of (name : String) (codec : Codec α) (get : σ → α) (set : α → σ → σ)
    (needed : Bool) : Field σ where
  name
  encode? x := some (codec.encode (get x))
  fromJson := set <$> codec.fromJson
  fromToml item := set <$> codec.fromToml item
  needed
  neededByPlace := needed

/-- Leave the field out of the written form where `skip` holds. -/
def skippedIf (skip : σ → Bool) (field : Field σ) : Field σ :=
  { field with encode? := fun x => if skip x then none else field.encode? x }

def toJson (field : Field σ) : Json.Field σ where
  name := field.name
  read := field.fromJson
  needed := field.needed
  neededByPlace := field.neededByPlace

end Field

/-- Give the fields their values from the entries of a table. -/
def recordEntries (entries : Toml.Entries) : List (Field σ) → σ → Option σ
  | [], x => some x
  | field :: fields, x =>
    match entries.lookup field.name with
    | some item => do
      let set ← field.fromToml item
      recordEntries entries fields (set x)
    | none => if field.needed then none else recordEntries entries fields x

/-- Records called `name`; fields that are left out have the values of `start`. -/
def record (name : String) (fields : List (Field σ)) (start : σ) : Codec σ where
  encode x := .object (fields.filterMap fun f => (f.encode? x).map (f.name, ·))
  fromJson := Json.record name (fields.map Field.toJson) start
  fromToml
    | .table _ entries => recordEntries entries fields start
    | _ => none

end Codec
end EdgeRender
