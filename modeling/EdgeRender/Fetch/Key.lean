import EdgeRender.Codec
import EdgeRender.Text.Blank
import EdgeRender.Url.Parser

/-! # Fetch keys

Fetches of one resource share a key: the canonical text of its URL. Blanks around the
URL and its fragment do not matter.
-/
namespace EdgeRender.Fetch

open EdgeRender.Text

inductive InputFault where
  | missingUrl
  /-- The URL as it was given, and what is wrong with it. -/
  | invalidUrl (url : String) (cause : Url.Fault)
  deriving DecidableEq, Repr

def InputFault.message : InputFault → String
  | .missingUrl => "Fetch input has no URL"
  | .invalidUrl url cause => "Invalid fetch URL '" ++ url ++ "': " ++ cause.message

/-- The identity of a fetched resource. -/
structure Key where
  text : String
  deriving DecidableEq, Repr

namespace Key

def parse (url : String) : Except InputFault Key :=
  let trimmed := trim url
  if trimmed.isEmpty then .error .missingUrl
  else
    match Url.parse trimmed.toList with
    | .ok u => .ok ⟨.ofList u.text⟩
    | .error cause => .error (.invalidUrl url cause)

def codec : Codec Key where
  encode k := .string k.text
  fromJson := Key.mk <$> Json.string
  fromToml item := Key.mk <$> Codec.string.fromToml item

end Key
end EdgeRender.Fetch
