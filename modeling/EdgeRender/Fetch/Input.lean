import EdgeRender.Fetch.Key
import EdgeRender.Request.Method

/-! # Fetch inputs

A fetch names its resource by a URL or by a request object, and may say how the answer
is to be cached. Either way it comes down to one record.
-/
namespace EdgeRender.Fetch

open EdgeRender.Text

inductive CacheMode where
  | unset
  | forceCache
  | noStore
  deriving DecidableEq, Repr

namespace CacheMode

def all : List CacheMode := [.unset, .forceCache, .noStore]

def name : CacheMode → String
  | .unset => "unset"
  | .forceCache => "force-cache"
  | .noStore => "no-store"

def directive? : CacheMode → Option String
  | .unset => none
  | .forceCache => some "force-cache"
  | .noStore => some "no-store"

def isSet : CacheMode → Bool
  | .unset => false
  | .forceCache | .noStore => true

/-- The first of two that is set. -/
def or (a b : CacheMode) : CacheMode :=
  if a.isSet then a else b

def codec : Codec CacheMode := .choice name all

end CacheMode

structure Options where
  method : Option Method := none
  cache : CacheMode := .unset
  /-- Seconds for which the answer stays fresh. -/
  revalidate : Option UInt32 := none
  tags : List String := []
  deriving DecidableEq, Repr

structure RequestLike where
  url : String
  method : Method := .get
  cache : CacheMode := .unset
  deriving DecidableEq, Repr

inductive Input where
  | plain (url : String) (options : Options)
  | request (request : RequestLike) (options : Options)
  deriving DecidableEq, Repr

inductive InputKind where
  | plain
  | requestLike
  deriving DecidableEq, Repr

namespace InputKind

def all : List InputKind := [.plain, .requestLike]

def name : InputKind → String
  | .plain => "plain"
  | .requestLike => "request-like"

def codec : Codec InputKind := .choice name all

end InputKind

namespace Input

def url : Input → String
  | .plain url _ => url
  | .request r _ => r.url

def options : Input → Options
  | .plain _ options | .request _ options => options

def kind : Input → InputKind
  | .plain .. => .plain
  | .request .. => .requestLike

/-- The method of the options goes before that of a request object. -/
def method : Input → Method
  | .plain _ options => options.method.getD .get
  | .request r options => options.method.getD r.method

/-- The cache mode of a request object goes before that of the options. -/
def cache : Input → CacheMode
  | .plain _ options => options.cache
  | .request r options => r.cache.or options.cache

end Input

/-- A fetch as it will be carried out. -/
structure Spec where
  /-- The URL as it was given, without blanks around it. -/
  url : String
  key : Key
  method : Method
  cache : CacheMode
  revalidate : Option UInt32
  kind : InputKind
  tags : List String
  deriving DecidableEq, Repr

/-- Only these methods are cached without being told to. -/
def Spec.hasCacheableMethod (s : Spec) : Bool :=
  s.method = .get || s.method = .head

def normalize (input : Input) : Except InputFault Spec := do
  let key ← Key.parse input.url
  pure
    { url := trim input.url, key, method := input.method, cache := input.cache,
      revalidate := input.options.revalidate, kind := input.kind, tags := input.options.tags }

end EdgeRender.Fetch
