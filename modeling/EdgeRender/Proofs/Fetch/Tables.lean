import EdgeRender.Fetch.Plan

/-! # The tables of conflicts and plans

Which directives contradict one another, and which answers are cached, is laid down in tables
of independent rules. The order in which the cases are tried makes no difference, and seconds
that are in conflict count as if they had not been given.
-/
namespace EdgeRender.Fetch

open EdgeRender.Log

variable {spec : Spec} {mode : RenderMode} {c c' : Conflict}

/-! ## Conflicts -/

/-- The rules by which directives contradict one another. -/
inductive Contradicts (spec : Spec) (mode : RenderMode) : Conflict → Prop where
  | forceCacheWithZero : spec.cache = .forceCache → spec.revalidate = some 0 →
      Contradicts spec mode .forceCacheWithZero
  | noStoreWithRevalidate {n : UInt32} : spec.cache = .noStore → spec.revalidate = some n →
      0 < n → Contradicts spec mode (.noStoreWithRevalidate n)
  | forceDynamicWithRevalidate {n : UInt32} : spec.cache = .unset → mode = .forceDynamic →
      spec.revalidate = some n → 0 < n → Contradicts spec mode (.forceDynamicWithRevalidate n)

/-- The rule that was found is one of the table. -/
theorem contradicts_of_findConflict? (h : findConflict? spec mode = some c) :
    Contradicts spec mode c := by
  unfold findConflict? at h
  split at h
  · next n hcache hseconds =>
    split at h
    · next hzero =>
      cases h
      exact .forceCacheWithZero hcache (hseconds.trans (congrArg some hzero))
    · cases h
  · next n hcache hseconds =>
    split at h
    · cases h
    · next hpos =>
      cases h
      exact .noStoreWithRevalidate hcache hseconds (UInt32.pos_iff_ne_zero.mpr hpos)
  · next n hcache hseconds =>
    split at h
    · next hrule =>
      cases h
      exact .forceDynamicWithRevalidate hcache hrule.2 hseconds
        (UInt32.pos_iff_ne_zero.mpr hrule.1)
    · cases h
  · cases h

/-- No rule of the table is missed. -/
theorem findConflict?_of_contradicts (h : Contradicts spec mode c) :
    findConflict? spec mode = some c := by
  cases h with
  | forceCacheWithZero hcache hseconds => simp [findConflict?, hcache, hseconds]
  | noStoreWithRevalidate hcache hseconds hpos =>
    simp [findConflict?, hcache, hseconds, UInt32.pos_iff_ne_zero.mp hpos]
  | forceDynamicWithRevalidate hcache hmode hseconds hpos =>
    simp [findConflict?, hcache, hmode, hseconds, UInt32.pos_iff_ne_zero.mp hpos]

theorem findConflict?_eq_some_iff : findConflict? spec mode = some c ↔ Contradicts spec mode c :=
  ⟨contradicts_of_findConflict?, findConflict?_of_contradicts⟩

/-- The rules exclude one another. -/
theorem Contradicts.unique (h : Contradicts spec mode c) (h' : Contradicts spec mode c') :
    c = c' := by
  rw [← findConflict?_eq_some_iff] at h h'
  exact Option.some.inj (h.symm.trans h')

/-- Without seconds nothing is in conflict. -/
theorem not_contradicts_of_none (h : spec.revalidate = none) : ¬ Contradicts spec mode c := by
  intro hrule
  cases hrule with
  | forceCacheWithZero _ hseconds => cases h.symm.trans hseconds
  | noStoreWithRevalidate _ hseconds _ => cases h.symm.trans hseconds
  | forceDynamicWithRevalidate _ _ hseconds _ => cases h.symm.trans hseconds

/-! ## Plans -/

/-- The rules by which answers are cached. -/
inductive IsCached (spec : Spec) (mode : RenderMode) : Prop where
  | forced : spec.cache = .forceCache → IsCached spec mode
  | timed {n : UInt32} : spec.cache = .unset → spec.method = .get ∨ spec.method = .head →
      spec.revalidate = some n → 0 < n → mode ≠ .forceDynamic → IsCached spec mode
  | static : spec.cache = .unset → spec.method = .get ∨ spec.method = .head →
      spec.revalidate = none → mode = .static → IsCached spec mode

theorem hasCacheableMethod_iff :
    spec.hasCacheableMethod = true ↔ spec.method = .get ∨ spec.method = .head := by
  simp [Spec.hasCacheableMethod]

/-- The plan of an answer that is cached. Seconds count if there are any. -/
def cachedPlan (spec : Spec) : Plan :=
  ⟨true, spec.revalidate.filter (0 < ·), spec.tags⟩

theorem cachedPlan_of_none (h : spec.revalidate = none) :
    cachedPlan spec = Plan.indefinitely.withTags spec.tags := by
  simp [cachedPlan, h, Plan.indefinitely, Plan.withTags]

theorem cachedPlan_of_zero (h : spec.revalidate = some 0) :
    cachedPlan spec = Plan.indefinitely.withTags spec.tags := by
  simp [cachedPlan, h, Option.filter_some, Plan.indefinitely, Plan.withTags]

theorem cachedPlan_of_pos {n : UInt32} (h : spec.revalidate = some n) (hpos : 0 < n) :
    cachedPlan spec = (Plan.forSeconds n).withTags spec.tags := by
  simp [cachedPlan, h, hpos, Plan.forSeconds, Plan.withTags]

/-- Only cached answers are tagged. -/
theorem planCache_of_untagged {p : Plan} (h : untaggedPlan spec mode (findConflict? spec mode) = p) :
    planCache spec mode = if p.cached then p.withTags spec.tags else p := by
  rw [planCache, planWith, h]

theorem planCache_of_noStore (h : spec.cache = .noStore) : planCache spec mode = .uncached := by
  have huntagged : untaggedPlan spec mode (findConflict? spec mode) = .uncached := by
    simp [untaggedPlan, h]
  exact planCache_of_untagged huntagged

/-- Whoever wants an answer cached has it cached, whatever else is said. -/
theorem planCache_of_forceCache (h : spec.cache = .forceCache) :
    planCache spec mode = cachedPlan spec := by
  cases hseconds : spec.revalidate with
  | none =>
    have huntagged : untaggedPlan spec mode (findConflict? spec mode) = .indefinitely := by
      simp [untaggedPlan, findConflict?, h, hseconds]
    rw [cachedPlan_of_none hseconds]
    exact planCache_of_untagged huntagged
  | some n =>
    by_cases hzero : n = 0
    · subst hzero
      have huntagged : untaggedPlan spec mode (findConflict? spec mode) = .indefinitely := by
        simp [untaggedPlan, findConflict?, h, hseconds]
      rw [cachedPlan_of_zero hseconds]
      exact planCache_of_untagged huntagged
    · have huntagged : untaggedPlan spec mode (findConflict? spec mode) = .forSeconds n := by
        simp [untaggedPlan, findConflict?, h, hseconds, hzero]
      rw [cachedPlan_of_pos hseconds (UInt32.pos_iff_ne_zero.mpr hzero)]
      exact planCache_of_untagged huntagged

/-- Other methods are not cached without being told to. -/
theorem planCache_of_uncacheable (hcache : spec.cache = .unset)
    (hmethod : spec.hasCacheableMethod = false) : planCache spec mode = .uncached := by
  have huntagged : untaggedPlan spec mode (findConflict? spec mode) = .uncached := by
    cases findConflict? spec mode <;> simp [untaggedPlan, hcache, hmethod]
  exact planCache_of_untagged huntagged

section Unset

variable (hcache : spec.cache = .unset) (hmethod : spec.hasCacheableMethod = true)
include hcache hmethod

theorem planCache_of_some {n : UInt32} (hseconds : spec.revalidate = some n) :
    planCache spec mode = if 0 < n ∧ mode ≠ .forceDynamic then cachedPlan spec else .uncached := by
  by_cases hrule : 0 < n ∧ mode ≠ .forceDynamic
  · obtain ⟨hpos, hmode⟩ := hrule
    have hzero := UInt32.pos_iff_ne_zero.mp hpos
    have huntagged : untaggedPlan spec mode (findConflict? spec mode) = .forSeconds n := by
      simp [untaggedPlan, findConflict?, planFresh, hcache, hmethod, hseconds, hzero, hmode]
    rw [if_pos ⟨hpos, hmode⟩, cachedPlan_of_pos hseconds hpos]
    exact planCache_of_untagged huntagged
  · -- without the rule there is a conflict, or the seconds say that nothing is cached
    have huntagged : untaggedPlan spec mode (findConflict? spec mode) = .uncached := by
      by_cases hzero : n = 0
      · simp [untaggedPlan, findConflict?, planFresh, hcache, hmethod, hseconds, hzero]
      · have hmode : mode = .forceDynamic := by
          simpa [UInt32.pos_iff_ne_zero, hzero] using hrule
        simp [untaggedPlan, findConflict?, hcache, hseconds, hzero, hmode]
    rw [if_neg hrule]
    exact planCache_of_untagged huntagged

theorem planCache_of_none (hseconds : spec.revalidate = none) :
    planCache spec mode = if mode = .static then cachedPlan spec else .uncached := by
  have huntagged : untaggedPlan spec mode (findConflict? spec mode)
      = if mode.isPerRequest then .uncached else .indefinitely := by
    simp [untaggedPlan, findConflict?, hcache, hmethod, hseconds]
  rw [planCache_of_untagged huntagged, cachedPlan_of_none hseconds]
  cases mode <;> rfl

end Unset

theorem planCache_of_isCached (h : IsCached spec mode) : planCache spec mode = cachedPlan spec := by
  cases h with
  | forced hcache => exact planCache_of_forceCache hcache
  | timed hcache hmethod hseconds hpos hmode =>
    rw [planCache_of_some hcache (hasCacheableMethod_iff.mpr hmethod) hseconds,
      if_pos ⟨hpos, hmode⟩]
  | static hcache hmethod hseconds hmode =>
    rw [planCache_of_none hcache (hasCacheableMethod_iff.mpr hmethod) hseconds, if_pos hmode]

theorem planCache_of_not_isCached (h : ¬ IsCached spec mode) :
    planCache spec mode = .uncached := by
  cases hcache : spec.cache with
  | forceCache => exact absurd (.forced hcache) h
  | noStore => exact planCache_of_noStore hcache
  | unset =>
    cases hmethod : spec.hasCacheableMethod with
    | false => exact planCache_of_uncacheable hcache hmethod
    | true =>
      have hname := hasCacheableMethod_iff.mp hmethod
      cases hseconds : spec.revalidate with
      | none =>
        rw [planCache_of_none hcache hmethod hseconds,
          if_neg fun hmode => h (.static hcache hname hseconds hmode)]
      | some n =>
        rw [planCache_of_some hcache hmethod hseconds,
          if_neg fun hrule => h (.timed hcache hname hseconds hrule.1 hrule.2)]

/-- On a force-dynamic route nothing is cached without being told to. -/
theorem not_isCached_of_forceDynamic (hcache : spec.cache = .unset) (hmode : mode = .forceDynamic) :
    ¬ IsCached spec mode := by
  intro h
  cases h with
  | forced hforced => cases hcache.symm.trans hforced
  | timed _ _ _ _ hother => exact hother hmode
  | static _ _ _ hstatic => cases hmode.symm.trans hstatic

/-! ## Resolutions -/

/-- What the tables say of a fetch. -/
structure Tabled (spec : Spec) (mode : RenderMode) (r : Resolution) : Prop where
  conflict : ∀ c, r.conflict = some c ↔ Contradicts spec mode c
  diagnostic : ∀ d, r.diagnostic = some d ↔
    ∃ c, Contradicts spec mode c ∧ d = ⟨spec.key.text, spec.method, spec.url, c.message⟩
  cached : r.plan.cached = true ↔ IsCached spec mode
  ttl : ∀ n, r.plan.ttl = some n ↔ IsCached spec mode ∧ spec.revalidate = some n ∧ 0 < n
  tags : r.plan.tags = if r.plan.cached then spec.tags else []

theorem tabled_resolve (spec : Spec) (mode : RenderMode) :
    Tabled spec mode (resolve spec mode) where
  conflict c := findConflict?_eq_some_iff
  diagnostic d := by
    show (findConflict? spec mode).map (·.diagnostic spec) = some d ↔ _
    rw [Option.map_eq_some_iff]
    simp only [findConflict?_eq_some_iff, Conflict.diagnostic, @eq_comm _ d]
  cached := by
    show (planCache spec mode).cached = true ↔ _
    by_cases h : IsCached spec mode
    · simp [planCache_of_isCached h, cachedPlan, h]
    · simp [planCache_of_not_isCached h, Plan.uncached, h]
  ttl n := by
    show (planCache spec mode).ttl = some n ↔ _
    by_cases h : IsCached spec mode
    · simp [planCache_of_isCached h, cachedPlan, h, Option.filter_eq_some_iff]
    · simp [planCache_of_not_isCached h, Plan.uncached, h]
  tags := by
    show (planCache spec mode).tags = if (planCache spec mode).cached then spec.tags else []
    by_cases h : IsCached spec mode
    · simp [planCache_of_isCached h, cachedPlan]
    · simp [planCache_of_not_isCached h, Plan.uncached]

/-- The tables leave nothing open. -/
theorem Tabled.unique {r r' : Resolution} (h : Tabled spec mode r) (h' : Tabled spec mode r') :
    r = r' := by
  have hconflict : r.conflict = r'.conflict :=
    Option.ext fun c => (h.conflict c).trans (h'.conflict c).symm
  have hdiagnostic : r.diagnostic = r'.diagnostic :=
    Option.ext fun d => (h.diagnostic d).trans (h'.diagnostic d).symm
  have hcached : r.plan.cached = r'.plan.cached :=
    Bool.eq_iff_iff.mpr (h.cached.trans h'.cached.symm)
  have httl : r.plan.ttl = r'.plan.ttl :=
    Option.ext fun n => (h.ttl n).trans (h'.ttl n).symm
  have htags : r.plan.tags = r'.plan.tags := by rw [h.tags, h'.tags, hcached]
  obtain ⟨⟨cached, ttl, tags⟩, conflict, diagnostic⟩ := r
  obtain ⟨⟨cached', ttl', tags'⟩, conflict', diagnostic'⟩ := r'
  simp_all

def Spec.withoutSeconds (spec : Spec) : Spec := { spec with revalidate := none }

theorem resolve_withoutSeconds (spec : Spec) (mode : RenderMode) :
    resolve spec.withoutSeconds mode = ⟨planCache spec.withoutSeconds mode, none, none⟩ := by
  have hnone : findConflict? spec.withoutSeconds mode = none := by
    apply Option.eq_none_iff_forall_ne_some.mpr
    intro c h
    exact not_contradicts_of_none rfl (contradicts_of_findConflict? h)
  simp [resolve, planCache, hnone]

/-- Seconds in conflict are ignored. -/
theorem Contradicts.planCache_eq (h : Contradicts spec mode c) :
    planCache spec mode = planCache spec.withoutSeconds mode := by
  cases h with
  | forceCacheWithZero hcache hseconds =>
    have hcache' : spec.withoutSeconds.cache = .forceCache := hcache
    rw [planCache_of_forceCache hcache, planCache_of_forceCache hcache',
      cachedPlan_of_zero hseconds, cachedPlan_of_none rfl]
    rfl
  | noStoreWithRevalidate hcache _ _ =>
    have hcache' : spec.withoutSeconds.cache = .noStore := hcache
    rw [planCache_of_noStore hcache, planCache_of_noStore hcache']
  | forceDynamicWithRevalidate hcache hmode _ _ =>
    have hcache' : spec.withoutSeconds.cache = .unset := hcache
    rw [planCache_of_not_isCached (not_isCached_of_forceDynamic hcache hmode),
      planCache_of_not_isCached (not_isCached_of_forceDynamic hcache' hmode)]

structure SettledByTables (spec : Spec) (mode : RenderMode) : Prop where
  /-- The tables hold of the resolution, and of no other. -/
  tables : ∀ r, Tabled spec mode r ↔ r = resolve spec mode
  /-- At most one rule for conflicts applies, so that their order makes no difference. -/
  exclusive : ∀ c c', Contradicts spec mode c → Contradicts spec mode c' → c = c'
  /-- Asked for separately, the parts are the same. -/
  parts : resolve spec mode =
    ⟨planCache spec mode, findConflict? spec mode, detectConflict? spec mode⟩
  /-- If there is a conflict, the plan is that of the fetch without its seconds, which has no
  conflict. -/
  ignored : ∀ c, (resolve spec mode).conflict = some c →
    resolve spec.withoutSeconds mode = ⟨(resolve spec mode).plan, none, none⟩

/-- Every fetch is settled by the tables, for every method, any seconds and any tags, on every
route. -/
theorem settledByTables (spec : Spec) (mode : RenderMode) : SettledByTables spec mode where
  tables r := by
    constructor
    · exact fun h => h.unique (tabled_resolve spec mode)
    · rintro rfl
      exact tabled_resolve spec mode
  exclusive _ _ := Contradicts.unique
  parts := rfl
  ignored c h := by
    have hplan := (contradicts_of_findConflict? h).planCache_eq
    rw [resolve_withoutSeconds, ← hplan]
    rfl

end EdgeRender.Fetch
