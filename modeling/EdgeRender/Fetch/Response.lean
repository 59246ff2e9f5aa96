import EdgeRender.Json.Document
import EdgeRender.Text.Blank

/-! # Responses

The answer to a fetch: a status, headers and a body of bytes. A header set again under
the same name replaces the old one; looked up, letter case does not matter.
-/
namespace EdgeRender.Fetch

open EdgeRender.Text

structure Response where
  status : Nat
  headers : List (String × String) := []
  body : List UInt8 := []
  deriving DecidableEq, Repr

inductive BodyFault where
  | notUtf8 (fault : Utf8.Fault)
  | notJson (refusal : Json.Refusal)
  deriving Repr

def BodyFault.message : BodyFault → String
  | .notUtf8 fault => "Invalid UTF-8: " ++ fault.message
  | .notJson refusal => refusal.message

/-- Set a value under a name, in the place of the old one if there is one. -/
def setPair (name value : String) : List (String × String) → List (String × String)
  | [] => [(name, value)]
  | (k, v) :: rest => if k = name then (name, value) :: rest else (k, v) :: setPair name value rest

theorem lookup_setPair (name value k : String) (pairs : List (String × String)) :
    (setPair name value pairs).lookup k =
      if k = name then some value else pairs.lookup k := by
  induction pairs with
  | nil => exact Json.lookup_member k name value []
  | cons pair rest ih =>
    obtain ⟨k', v⟩ := pair
    unfold setPair
    split
    · next h =>
      rw [Json.lookup_member, Json.lookup_member, h]
      split <;> rfl
    · next h =>
      rw [Json.lookup_member, Json.lookup_member, ih]
      by_cases h₁ : k = k' <;> by_cases h₂ : k = name <;> simp_all

namespace Response

def withHeader (r : Response) (name value : String) : Response :=
  { r with headers := setPair name value r.headers }

def ofHeaders (status : Nat) (body : List UInt8) (headers : List (String × String)) : Response :=
  headers.foldl (fun r (k, v) => r.withHeader k v) { status, body }

/-- The value of a header, found without regard to the case of ASCII letters. -/
def header? (r : Response) (name : String) : Option String :=
  (r.headers.find? fun (k, _) => sameAsciiName k name).map Prod.snd

def isSuccess (r : Response) : Bool :=
  200 ≤ r.status && r.status < 300

theorem isSuccess_iff {r : Response} : r.isSuccess = true ↔ 200 ≤ r.status ∧ r.status < 300 := by
  simp [isSuccess]

def text (r : Response) : Except BodyFault String :=
  match Utf8.decode r.body with
  | .ok s => .ok (.ofList s)
  | .error fault => .error (.notUtf8 fault)

def json (r : Response) : Except BodyFault Json.Value :=
  match Json.parse r.body with
  | .ok v => .ok v
  | .error refusal => .error (.notJson refusal)

/-- The answer where nothing is found. -/
def notFound : Response where
  status := 404
  body := Utf8.encode "not found".toList

end Response
end EdgeRender.Fetch
