/-! # Durations

Spans of time as whole seconds and nanoseconds below one second.
-/
namespace EdgeRender

structure Duration where
  seconds : UInt64
  nanos : Nat
  nanos_lt : nanos < 1000000000 := by omega
  deriving DecidableEq, Repr

namespace Duration

/-- Nanoseconds in a second, in a millisecond and in a microsecond. -/
def perSecond : Nat := 1000000000

def perMilli : Nat := 1000000

def perMicro : Nat := 1000

def ofMillis (ms : UInt64) : Duration where
  seconds := ms / 1000
  nanos := (ms % 1000).toNat * perMilli
  nanos_lt := by
    have h : (ms % 1000).toNat < 1000 := by
      simpa using Nat.mod_lt ms.toNat (by decide : 0 < 1000)
    simp only [perMilli]
    omega

def wholeMillis (d : Duration) : Nat :=
  d.seconds.toNat * 1000 + d.nanos / perMilli

/-- Milliseconds survive the way into a span and back. -/
@[simp] theorem wholeMillis_ofMillis (ms : UInt64) : (ofMillis ms).wholeMillis = ms.toNat := by
  have hs : (ms / 1000).toNat = ms.toNat / 1000 := by simp
  have hn : (ms % 1000).toNat = ms.toNat % 1000 := by simp
  simp only [wholeMillis, ofMillis, perMilli, hs, hn]
  omega

/-- The milliseconds of a span, the last one counted even if it has only begun. A timer for the
span strikes after so many. -/
def begunMillis (d : Duration) : Nat :=
  d.seconds.toNat * 1000 + (d.nanos + (perMilli - 1)) / perMilli

@[simp] theorem begunMillis_ofMillis (ms : UInt64) : (ofMillis ms).begunMillis = ms.toNat := by
  have hs : (ms / 1000).toNat = ms.toNat / 1000 := by simp
  have hn : (ms % 1000).toNat = ms.toNat % 1000 := by simp
  simp only [begunMillis, ofMillis, perMilli, hs, hn]
  omega

/-- The whole milliseconds, kept in a word of 64 bits. -/
def millis (d : Duration) : UInt64 :=
  .ofNat d.wholeMillis

/-- The decimals of `part` in units of `unit`, a power of ten, without zeros at the
end; `width` bounds their number. -/
def decimals (unit : Nat) : Nat → Nat → List Char
  | 0, _ => []
  | width + 1, part =>
    if part = 0 then []
    else Nat.digitChar (part / (unit / 10)) :: decimals (unit / 10) width (part % (unit / 10))

def scaledText (whole part unit : Nat) (suffix : String) : String :=
  let places := decimals unit 9 part
  let point := if places.isEmpty then "" else "."
  toString whole ++ point ++ .ofList places ++ suffix

/-- The span in seconds, or in the greatest smaller unit that leaves a whole part. -/
def text (d : Duration) : String :=
  if d.seconds ≠ 0 then scaledText d.seconds.toNat d.nanos perSecond "s"
  else if perMilli ≤ d.nanos then
    scaledText (d.nanos / perMilli) (d.nanos % perMilli) perMilli "ms"
  else if perMicro ≤ d.nanos then
    scaledText (d.nanos / perMicro) (d.nanos % perMicro) perMicro "µs"
  else toString d.nanos ++ "ns"

end Duration
end EdgeRender
