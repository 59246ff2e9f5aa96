import EdgeRender.Url.Host
import EdgeRender.Url.Path

/-! # URLs with a host

The parts of an absolute URL and its canonical text. Fragments are no part of it: they
never reach a server.
-/
namespace EdgeRender

open EdgeRender.Text

/-- A URL with a host and without a fragment. -/
structure Url where
  scheme : List Char
  username : List Char := []
  password : List Char := []
  host : Url.Host
  port : Option Nat := none
  segments : List (List Char) := []
  query : Option (List Char) := none
  deriving DecidableEq, Repr

namespace Url

def userInfoText (u : Url) : List Char :=
  let password := if u.password.isEmpty then [] else ':' :: u.password
  if u.username.isEmpty && u.password.isEmpty then [] else u.username ++ password ++ ['@']

def portText (u : Url) : List Char :=
  match u.port with
  | some port => ':' :: Nat.toDigits 10 port
  | none => []

def queryText (u : Url) : List Char :=
  match u.query with
  | some query => '?' :: query
  | none => []

def text (u : Url) : List Char :=
  u.scheme ++ "://".toList ++ u.userInfoText ++ u.host.text ++ u.portText ++
    pathText u.segments ++ u.queryText

end Url
end EdgeRender
