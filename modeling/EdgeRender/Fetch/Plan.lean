import EdgeRender.Config.Runtime
import EdgeRender.Fetch.Conflict

/-! # Cache plans

Whether the answer to a fetch is cached, for how long, and under which tags. A plan is
carried out by a response header.
-/
namespace EdgeRender.Fetch

open EdgeRender.Log

structure Plan where
  cached : Bool
  /-- Seconds until the answer is stale; nothing means never. -/
  ttl : Option UInt32 := none
  tags : List String := []
  deriving DecidableEq, Repr

namespace Plan

def uncached : Plan := { cached := false }

def indefinitely : Plan := { cached := true }

def forSeconds (ttl : UInt32) : Plan := { cached := true, ttl := some ttl }

def withTags (p : Plan) (tags : List String) : Plan := { p with tags }

/-- Seconds that stand for ever: a year. -/
def indefiniteSeconds : UInt32 := 31536000

/-- The value of the header `Cache-Control`. -/
def header (p : Plan) : String :=
  if p.cached then "s-maxage=" ++ toString (p.ttl.getD indefiniteSeconds).toNat
  else "no-store"

/-- The fields in their order. The seconds may be left out by name only; neither they
nor the tags are written when there are none. -/
def fields : List (Codec.Field Plan) :=
  [.of "cached" .boolean (·.cached) (fun x p => { p with cached := x }) true,
   { (Codec.Field.of "ttl_seconds" (.nullable .word32) (·.ttl)
        (fun x p => { p with ttl := x }) false).skippedIf (·.ttl.isNone) with
      neededByPlace := true },
   (Codec.Field.of "tags" (.list .string) (·.tags)
      (fun x p => { p with tags := x }) false).skippedIf (·.tags.isEmpty)]

def codec : Codec Plan :=
  .record "EffectiveCachePlan" fields { cached := false }

end Plan

/-- The plan for a fetch whose revalidation seconds count. -/
def planFresh (ttl : UInt32) : Plan :=
  if ttl = 0 then .uncached else .forSeconds ttl

/-- The plan for a fetch, given its conflict, without tags. -/
def untaggedPlan (spec : Spec) (mode : RenderMode) (conflict : Option Conflict) : Plan :=
  match spec.cache, conflict with
  | .noStore, _ => .uncached
  | .forceCache, some _ => .indefinitely
  | .forceCache, none =>
    match spec.revalidate with
    | some ttl => if ttl = 0 then .indefinitely else .forSeconds ttl
    | none => .indefinitely
  | .unset, some _ => .uncached
  | .unset, none =>
    if !spec.hasCacheableMethod then .uncached
    else
      match spec.revalidate with
      | some ttl => planFresh ttl
      | none => if mode.isPerRequest then .uncached else .indefinitely

/-- The plan for a fetch, given its conflict. Only cached answers are tagged. -/
def planWith (spec : Spec) (mode : RenderMode) (conflict : Option Conflict) : Plan :=
  let plan := untaggedPlan spec mode conflict
  if plan.cached then plan.withTags spec.tags else plan

def planCache (spec : Spec) (mode : RenderMode) : Plan :=
  planWith spec mode (findConflict? spec mode)

/-- All that follows from the directives of a fetch. -/
structure Resolution where
  plan : Plan
  conflict : Option Conflict
  diagnostic : Option Diagnostic
  deriving DecidableEq, Repr

/-- Settle a fetch on a route of the given mode. -/
def resolve (spec : Spec) (mode : RenderMode) : Resolution :=
  let conflict := findConflict? spec mode
  { plan := planWith spec mode conflict, conflict,
    diagnostic := conflict.map (·.diagnostic spec) }

end EdgeRender.Fetch
