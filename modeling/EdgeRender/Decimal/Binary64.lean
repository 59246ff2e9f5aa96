/-! # Binary64 numbers

Finite floating point numbers of 64 bits, held as a sign and a whole number of units,
the unit being the least positive one, two to the power -1074. All arithmetic is
exact on whole numbers and then rounded once, to the nearest number, a tie to the
even significand.
-/
namespace EdgeRender.Decimal

def tenTo (k : Nat) : Nat :=
  Nat.pow 10 k

/-- A finite binary64 number: a sign and a magnitude in units of 2^-1074. -/
structure Binary64 where
  negative : Bool
  units : Nat
  deriving DecidableEq, Repr

namespace Binary64

def one : Nat := Nat.pow 2 1074

/-- The least magnitude that is too great: two to the power 1024. -/
def limit : Nat := Nat.pow 2 2098

/-- The distance between neighbours at the magnitude `n`. -/
def spacing (n : Nat) : Nat :=
  Nat.pow 2 (n.log2 - 52)

/-- The nearest multiple of `spacing` to `num / den`, a tie to the even one. -/
def roundTo (spacing num den : Nat) : Nat :=
  let q := num / (den * spacing)
  let r := num % (den * spacing)
  let up := den * spacing < 2 * r ∨ (2 * r = den * spacing ∧ q % 2 = 1)
  (if up then q + 1 else q) * spacing

/-- The nearest magnitude to `num / den` units; `none` if it is too great. -/
def round? (num den : Nat) : Option Nat :=
  let n := roundTo (spacing (num / den)) num den
  if n < limit then some n else none

def ofNat? (n : Nat) : Option Nat :=
  round? (n * one) 1

def ofRatio? (num den : Nat) : Option Nat :=
  round? (num * one) den

def mul? (a b : Nat) : Option Nat :=
  round? (a * b) one

def div? (a b : Nat) : Option Nat :=
  round? (a * one) b

def tenTo? (k : Nat) : Option Nat :=
  ofNat? (tenTo k)

/-- The magnitude of `significand` times ten to the power `exponent`, by steps that
round one by one: the significand, its product with a power of ten or its quotient by
one. Below 10^-308 the quotient is taken in several steps, each by 10^308 at most;
`steps` bounds them. `none` if the result is too great. -/
def scale? : Nat → Nat → Int → Option Nat
  | 0, f, _ => some f
  | steps + 1, f, exponent =>
    if exponent.natAbs ≤ 308 then
      match tenTo? exponent.natAbs with
      | none => none
      | some power => if 0 ≤ exponent then mul? f power else div? f power
    else if f = 0 then some 0
    else if 0 ≤ exponent then none
    else
      match (tenTo? 308).bind (div? f) with
      | none => none
      | some f => scale? steps f (exponent + 308)

/-- The number written as a significand with a decimal exponent. After four quotients
by 10^308 nothing is left of a significand of 64 bits. -/
def ofDecimal? (negative : Bool) (significand : Nat) (exponent : Int) : Option Binary64 :=
  ((ofNat? significand).bind fun f => scale? 5 f exponent).map (⟨negative, ·⟩)

end Binary64
end EdgeRender.Decimal
