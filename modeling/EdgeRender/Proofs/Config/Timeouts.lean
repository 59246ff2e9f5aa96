import EdgeRender.Proofs.Log.Entries
import EdgeRender.Proofs.Server.Limits

/-! # Whole milliseconds of a span

The time limit of tasks, and a duration in the log, are kept in whole milliseconds as a word of
64 bits. A span may have more milliseconds than such a word counts, and then only what remains of
them is kept. `keepsMillis` says what is kept, and of which spans it is what it should be;
`keepsMillis_tooLong` shows a long limit that comes to a short one.
-/
namespace EdgeRender

open EdgeRender.Deferred EdgeRender.Log

namespace Duration

def inNanos (d : Duration) : Nat :=
  d.seconds.toNat * perSecond + d.nanos

/-- Spans are ordered by their length. -/
instance : LE Duration := ⟨fun d d' => d.inNanos ≤ d'.inNanos⟩

theorem le_iff {d d' : Duration} : d ≤ d' ↔ d.inNanos ≤ d'.inNanos := Iff.rfl

instance (d d' : Duration) : Decidable (d ≤ d') := decidable_of_iff _ le_iff.symm

/-- The milliseconds of a span that are kept: what remains of them in 64 bits. -/
def keptMillis (d : Duration) : Nat :=
  d.inNanos / perMilli % UInt64.size

/-- The milliseconds of a span as they should be kept: the greatest number stands for all those
beyond it. -/
def cappedMillis (d : Duration) : Nat :=
  min (d.inNanos / perMilli) (UInt64.size - 1)

/-- The milliseconds of a span fit 64 bits, or what remains of them is the greatest number. -/
def Fits (d : Duration) : Prop :=
  d.inNanos / perMilli < UInt64.size ∨ d.keptMillis = UInt64.size - 1

variable {d d' : Duration}

theorem wholeMillis_eq (d : Duration) : d.wholeMillis = d.inNanos / perMilli := by
  unfold wholeMillis inNanos perMilli perSecond
  omega

theorem toNat_millis (d : Duration) : d.millis.toNat = d.keptMillis := by
  rw [millis, UInt64.toNat_ofNat', wholeMillis_eq]
  rfl

/-- A span of whole milliseconds has just these. -/
theorem inNanos_ofMillis (ms : UInt64) : (ofMillis ms).inNanos = ms.toNat * perMilli := by
  have hseconds : (ms / 1000).toNat = ms.toNat / 1000 := by simp
  have hrest : (ms % 1000).toNat = ms.toNat % 1000 := by simp
  simp only [inNanos, ofMillis, hseconds, hrest, perSecond, perMilli]
  omega

theorem keptMillis_le (d : Duration) : d.keptMillis ≤ UInt64.size - 1 :=
  Nat.le_sub_one_of_lt (Nat.mod_lt _ (by decide))

theorem keptMillis_of_lt (h : d.inNanos / perMilli < UInt64.size) :
    d.keptMillis = d.inNanos / perMilli :=
  Nat.mod_eq_of_lt h

/-- What is kept is what should be just if the span fits. -/
theorem keptMillis_eq_capped_iff : d.keptMillis = d.cappedMillis ↔ d.Fits := by
  unfold Fits cappedMillis
  by_cases h : d.inNanos / perMilli < UInt64.size
  · rw [keptMillis_of_lt h, Nat.min_eq_left (Nat.le_sub_one_of_lt h)]
    exact iff_of_true rfl (.inl h)
  · rw [Nat.min_eq_right (by omega), or_iff_right h]

/-- Of all spans that are no longer than this one no more is kept, just if it fits. -/
theorem keptMillis_le_iff : (∀ d' ≤ d, d'.keptMillis ≤ d.keptMillis) ↔ d.Fits := by
  constructor
  · intro hordered
    by_cases h : d.inNanos / perMilli < UInt64.size
    · exact .inl h
    · -- the longest span whose milliseconds are counted is shorter
      let longest : Duration := ofMillis (.ofNat (UInt64.size - 1))
      have hnanos : longest.inNanos = (UInt64.size - 1) * perMilli := inNanos_ofMillis _
      have hle : longest ≤ d := by
        have hdiv := (Nat.le_div_iff_mul_le (by decide)).mp (Nat.le_of_not_lt h)
        rw [le_iff, hnanos]
        exact Nat.le_trans (Nat.mul_le_mul_right _ (Nat.sub_le _ _)) hdiv
      have hkept : longest.keptMillis = UInt64.size - 1 := by
        rw [keptMillis, hnanos]
        rfl
      exact .inr (Nat.le_antisymm d.keptMillis_le (hkept ▸ hordered longest hle))
  · rintro (h | h) d' hle
    · rw [keptMillis_of_lt h]
      exact Nat.le_trans (Nat.mod_le _ _) (Nat.div_le_div_right hle)
    · rw [h]
      exact d'.keptMillis_le

end Duration

open Duration

/-- The limit that is stored is that of the milliseconds kept. -/
theorem RuntimeConfig.inNanos_taskTimeout (c : RuntimeConfig) (d : Duration) :
    (c.withTaskTimeout d).taskTimeout.inNanos = d.keptMillis * perMilli := by
  show (ofMillis d.millis).inNanos = _
  rw [inNanos_ofMillis, toNat_millis]

structure KeepsMillis (d : Duration) : Prop where
  /-- A configuration that is given it as time limit reports the milliseconds kept, -/
  reported : ∀ c : RuntimeConfig,
    (c.withTaskTimeout d).taskTimeout.inNanos = d.keptMillis * perMilli
  /-- and under that configuration the tasks of all requests have this limit at all times. -/
  applied : ∀ (σ : Type) (c : RuntimeConfig) (srv srv' : Server σ), srv.IsNew →
    srv.config = c.withTaskTimeout d → srv.Reaches EventLoop.Stepped srv' →
    ∀ limit ∈ srv'.loop.limits, limit.inNanos = d.keptMillis * perMilli
  /-- An entry whose last field of a name is the span has the milliseconds kept under it. -/
  recorded : ∀ (l : Logger) (s : Submission) (name : String),
    s.fields.reverse.find? (·.name == name) = some (.duration name d) →
    (l.entry s).fields.lookup name = some (.natural d.keptMillis)
  /-- They are the milliseconds of the span, rounded down and capped, just if it fits. -/
  capped : d.keptMillis = d.cappedMillis ↔ d.Fits
  /-- Just then no shorter span comes to a longer limit. -/
  ordered : (∀ d' ≤ d, d'.keptMillis ≤ d.keptMillis) ↔ d.Fits

/-- Of any span, given as time limit of the tasks or logged, the whole milliseconds are kept
modulo 2^64. That is right, and in order with all shorter spans, just if their number is below
2^64 or one below a multiple of it. -/
theorem keepsMillis (d : Duration) : KeepsMillis d where
  reported c := c.inNanos_taskTimeout d
  applied := by
    intro σ c srv srv' hnew hconfig hreaches limit hlimit
    rw [(Server.limits_of_reaches hnew hreaches).limits limit hlimit, hconfig]
    exact c.inNanos_taskTimeout d
  recorded := by
    intro l s name hlast
    show (fieldsOf s.fields).lookup name = _
    rw [lookup_fieldsOf, Submission.given?, hlast, ← toNat_millis]
    rfl
  capped := keptMillis_eq_capped_iff
  ordered := keptMillis_le_iff

/-- A limit of more than half a billion years comes to 384 milliseconds, and one of a second,
which is shorter, to a second. In the log it is as short. -/
theorem keepsMillis_tooLong :
    let long : Duration := { seconds := 18446744073709552, nanos := 0 }
    let short : Duration := { seconds := 1, nanos := 0 }
    let c : RuntimeConfig := {}
    short ≤ long ∧ long.cappedMillis = 18446744073709551615 ∧
      (c.withTaskTimeout long).taskTimeout = .ofMillis 384 ∧
      (c.withTaskTimeout short).taskTimeout = .ofMillis 1000 ∧
      (Field.duration "d" long).value = .natural 384 := by
  refine ⟨by decide, by decide, by decide, by decide, rfl⟩

end EdgeRender
