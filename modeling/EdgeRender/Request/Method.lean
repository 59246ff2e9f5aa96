import EdgeRender.Text.Blank

/-! # Request methods

A method is a token: one character or more, each a letter, a digit or one of a few
marks. Letter case matters.
-/
namespace EdgeRender

def isTokenChar (c : Char) : Bool :=
  c.isAlphanum || c ∈ "!#$%&'*+-.^_`|~".toList

def isToken (s : List Char) : Bool :=
  !s.isEmpty && s.all isTokenChar

structure Method where
  name : List Char
  token : isToken name = true
  deriving DecidableEq, Repr

namespace Method

def ofName? (name : List Char) : Option Method :=
  if h : isToken name = true then some ⟨name, h⟩ else none

def parse? (text : String) : Option Method :=
  ofName? text.toList

def get : Method := ⟨['G', 'E', 'T'], by decide⟩

def head : Method := ⟨['H', 'E', 'A', 'D'], by decide⟩

def text (m : Method) : String := .ofList m.name

instance : Inhabited Method := ⟨get⟩

end Method
end EdgeRender
