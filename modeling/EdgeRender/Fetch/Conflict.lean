import EdgeRender.Config.Mode
import EdgeRender.Fetch.Input
import EdgeRender.Log.Diagnostic

/-! # Conflicting directives

Directives of a fetch that contradict one another, or the way the route is rendered.
At most one conflict arises, for each needs another cache mode.
-/
namespace EdgeRender.Fetch

open EdgeRender.Log

/-- A contradiction. The number is that of the revalidation seconds. -/
inductive Conflict where
  | forceCacheWithZero
  | noStoreWithRevalidate (n : UInt32)
  | forceDynamicWithRevalidate (n : UInt32)
  deriving DecidableEq, Repr

namespace Conflict

def name : Conflict → String
  | .forceCacheWithZero => "force-cache-zero"
  | .noStoreWithRevalidate _ => "no-store-revalidate"
  | .forceDynamicWithRevalidate _ => "force-dynamic-revalidate"

def seconds? : Conflict → Option UInt32
  | .forceCacheWithZero => none
  | .noStoreWithRevalidate n | .forceDynamicWithRevalidate n => some n

def message : Conflict → String
  | .forceCacheWithZero =>
    "Specified \"cache: force-cache\" and \"revalidate: 0\", only one should be specified."
  | .noStoreWithRevalidate n =>
    "Specified \"cache: no-store\" and \"revalidate: " ++ toString n.toNat ++
      "\", only one should be specified."
  | .forceDynamicWithRevalidate n =>
    "Specified \"dynamic: 'force-dynamic'\" and \"revalidate: " ++ toString n.toNat ++
      "\" without explicitly caching the fetch. This fetch will be treated as an uncached fetch."

def diagnostic (c : Conflict) (spec : Spec) : Diagnostic where
  key := spec.key.text
  method := spec.method
  url := spec.url
  message := c.message

end Conflict

def findConflict? (spec : Spec) (mode : RenderMode) : Option Conflict :=
  match spec.cache, spec.revalidate with
  | .forceCache, some n => if n = 0 then some .forceCacheWithZero else none
  | .noStore, some n => if n = 0 then none else some (.noStoreWithRevalidate n)
  | .unset, some n =>
    if n ≠ 0 ∧ mode = .forceDynamic then some (.forceDynamicWithRevalidate n) else none
  | _, none => none

def detectConflict? (spec : Spec) (mode : RenderMode) : Option Diagnostic :=
  (findConflict? spec mode).map (·.diagnostic spec)

end EdgeRender.Fetch
