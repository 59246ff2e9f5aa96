/-! # Punycode

A text as ASCII letters, digits and hyphens: its ASCII characters, a hyphen, and the
places of the others as numbers of variable length. The weights of the digits adapt
to the numbers written so far.
-/
namespace EdgeRender.Idna.Punycode

def base : Nat := 36
def tMin : Nat := 1
def tMax : Nat := 26
def skew : Nat := 38
def damp : Nat := 700
def initialBias : Nat := 72
def initialCode : Nat := 0x80

/-- Scale a delta down until it fits; counts the steps. -/
def scaleDelta : Nat → Nat → Nat → Nat × Nat
  | 0, delta, k => (delta, k)
  | fuel + 1, delta, k =>
    if delta > (base - tMin) * tMax / 2 then scaleDelta fuel (delta / (base - tMin)) (k + base)
    else (delta, k)

/-- The bias after a delta was written. -/
def adapt (delta points : Nat) (first : Bool) : Nat :=
  let delta := if first then delta / damp else delta / 2
  let (delta, k) := scaleDelta delta (delta + delta / points) 0
  k + (base - tMin + 1) * delta / (delta + skew)

def threshold (k bias : Nat) : Nat :=
  if k ≤ bias + tMin then tMin else if bias + tMax ≤ k then tMax else k - bias

def digitValue? (c : Char) : Option Nat :=
  if 'a' ≤ c && c ≤ 'z' then some (c.toNat - 97)
  else if 'A' ≤ c && c ≤ 'Z' then some (c.toNat - 65)
  else if '0' ≤ c && c ≤ '9' then some (c.toNat - 22)
  else none

def digitOf (n : Nat) : Char :=
  if n < 26 then .ofNat (97 + n) else .ofNat (22 + n)

/-! ## Decoding -/

/-- Read one number; returns it and what follows. -/
def readDelta (bias weight k sum : Nat) : List Char → Option (Nat × List Char)
  | [] => none
  | c :: rest => do
    let digit ← digitValue? c
    let sum := sum + digit * weight
    let t := threshold k bias
    if digit < t then pure (sum, rest)
    else readDelta bias (weight * (base - t)) (k + base) sum rest

/-- Insert the characters that the numbers place. Each number takes a character of the
input at least, so its length bounds their count. -/
def decodeDeltas : Nat → Nat → Nat → Nat → List Char → List Char → Option (List Char)
  | _, _, _, _, out, [] => some out
  | 0, _, _, _, _, _ :: _ => none
  | fuel + 1, code, i, bias, out, input@(_ :: _) => do
    let (delta, rest) ← readDelta bias 1 base 0 input
    let points := out.length + 1
    let i' := i + delta
    let code := code + i' / points
    if 0x10FFFF < code ∨ (0xD800 ≤ code ∧ code ≤ 0xDFFF) then none
    else
      let at_ := i' % points
      let out := out.take at_ ++ Char.ofNat code :: out.drop at_
      decodeDeltas fuel code (at_ + 1) (adapt delta points (i == 0)) out rest

/-- Split at the last hyphen. A hyphen in front delimits nothing. -/
def splitBasic (s : List Char) : List Char × List Char :=
  let tail := (s.reverse.takeWhile (· ≠ '-')).reverse
  let basic := s.take (s.length - tail.length - 1)
  if basic.isEmpty then ([], s) else (basic, tail)

/-- The text that is encoded. What stands in front of the last hyphen is ASCII. -/
def decode (s : List Char) : Option (List Char) :=
  let (basic, deltas) := splitBasic s
  if basic.any (initialCode ≤ ·.toNat) then none
  else decodeDeltas deltas.length initialCode 0 initialBias basic deltas

/-! ## Encoding -/

/-- The digits of one number. The number shrinks with each digit. -/
def writeDelta : Nat → Nat → Nat → Nat → List Char
  | 0, _, _, q => [digitOf q]
  | fuel + 1, bias, k, q =>
    let t := threshold k bias
    if q < t then [digitOf q]
    else digitOf (t + (q - t) % (base - t)) ::
      writeDelta fuel bias (k + base) ((q - t) / (base - t))

structure Progress where
  delta : Nat
  bias : Nat
  handled : Nat
  out : List Char

/-- Go over the text and write a number for each occurrence of the code point `m`. -/
def encodePass (m basicCount : Nat) (p : Progress) : List Char → Progress
  | [] => p
  | c :: rest =>
    if c.toNat < m then encodePass m basicCount { p with delta := p.delta + 1 } rest
    else if c.toNat = m then
      encodePass m basicCount
        { delta := 0
          bias := adapt p.delta (p.handled + 1) (p.handled == basicCount)
          handled := p.handled + 1
          out := p.out ++ writeDelta p.delta p.bias base p.delta } rest
    else encodePass m basicCount p rest

/-- One pass for each code point, from the least one up. -/
def encodePasses : Nat → Nat → Nat → Progress → List Char → List Char
  | 0, _, _, p, _ => p.out
  | fuel + 1, n, basicCount, p, s =>
    match ((s.map Char.toNat).filter (n ≤ ·)).min? with
    | none => p.out
    | some m =>
      let p := { p with delta := p.delta + (m - n) * (p.handled + 1) }
      let p := encodePass m basicCount p s
      encodePasses fuel (m + 1) basicCount { p with delta := p.delta + 1 } s

def encode (s : List Char) : List Char :=
  let basic := s.filter (·.toNat < initialCode)
  let out := if basic.isEmpty then [] else basic ++ ['-']
  encodePasses s.length initialCode basic.length ⟨0, initialBias, basic.length, out⟩ s

end EdgeRender.Idna.Punycode
