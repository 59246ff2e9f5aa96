import EdgeRender.Decimal.Binary64

/-! # Shortest decimal text

The fewest digits that read back as the same number, and of those the nearest to it.
For one digit, two digits and so on the two neighbours of the value on the decimal
grid are tested in whole-number arithmetic; seventeen digits always suffice.
-/
namespace EdgeRender.Decimal

/-- A decimal: digits as a number, and the power of ten of the last digit. -/
structure Digits where
  digits : Nat
  exponent : Int
  deriving DecidableEq, Repr

/-- The numbers that read back as the magnitude `n` lie between these bounds, given as
multiples of a quarter unit. Below a power of two the neighbour is half as far. -/
def lowerBound (n : Nat) : Nat :=
  let s := Binary64.spacing n
  if n = Nat.pow 2 n.log2 ∧ 1 < s then 4 * n - s else 4 * n - 2 * s

def upperBound (n : Nat) : Nat :=
  4 * n + 2 * Binary64.spacing n

/-- The bounds themselves read back as `n` if its significand is even. -/
def boundsIncluded (n : Nat) : Bool :=
  n / Binary64.spacing n % 2 == 0

/-- `d` times ten to the power `e` as a fraction of a quarter unit. -/
def gridPoint (d : Nat) (e : Int) : Nat × Nat :=
  let four := 4 * Binary64.one
  if 0 ≤ e then (d * tenTo e.toNat * four, 1) else (d * four, tenTo (-e).toNat)

def readsBack (n d : Nat) (e : Int) : Bool :=
  let (num, den) := gridPoint d e
  let low := lowerBound n * den
  let high := upperBound n * den
  if boundsIncluded n then low ≤ num && num ≤ high else low < num && num < high

/-- The greatest multiple of ten to the power `e` that is not above `n` units. -/
def gridBelow (n : Nat) (e : Int) : Nat :=
  if 0 ≤ e then n / (tenTo e.toNat * Binary64.one)
  else n * tenTo (-e).toNat / Binary64.one

/-- Of the two neighbours of `n` on the grid of `e`, the one that reads back; of two
the nearer, and of two equally near the even one. -/
def gridHit? (n : Nat) (e : Int) : Option Nat :=
  let d := gridBelow n e
  match readsBack n d e && d != 0, readsBack n (d + 1) e with
  | false, false => none
  | true, false => some d
  | false, true => some (d + 1)
  | true, true =>
    let (low, den) := gridPoint d e
    let (high, _) := gridPoint (d + 1) e
    let twice := 2 * (4 * n * den)
    if twice < low + high then some d
    else if low + high < twice then some (d + 1)
    else if d % 2 = 0 then some d else some (d + 1)

/-- Try grids finer and finer, `grids` of them, the first with step ten to `e`. -/
def searchGrids (n : Nat) : Nat → Int → Digits
  | 0, e => ⟨gridBelow n e, e⟩
  | grids + 1, e =>
    match gridHit? n e with
    | some d => ⟨d, e⟩
    | none => searchGrids n grids (e - 1)

/-- The power of ten of the first digit of a positive magnitude. -/
def leadingExponent (n : Nat) : Int :=
  if Binary64.one ≤ n then ((Nat.toDigits 10 (n / Binary64.one)).length : Int) - 1
  else
    let scaled := n * tenTo 324 / Binary64.one
    ((Nat.toDigits 10 scaled).length : Int) - 325

def Digits.trimmed (d : Digits) : Digits :=
  let ds := Nat.toDigits 10 d.digits
  let zeros := (ds.reverse.takeWhile (· == '0')).length
  if d.digits = 0 then ⟨0, 0⟩ else ⟨d.digits / tenTo zeros, d.exponent + zeros⟩

/-- The shortest digits of a positive magnitude. -/
def shortest (n : Nat) : Digits :=
  (searchGrids n 18 (leadingExponent n + 1)).trimmed

/-- How digits become text: which leading exponents are written without an exponent. -/
structure Layout where
  leastPlain : Int
  greatestPlain : Int
  deriving Repr

/-- Text of digits: plain with at least one decimal place, or one digit, a point and
the rest, and the exponent with its sign. -/
def Layout.write (l : Layout) (d : Digits) : String :=
  let ds := Nat.toDigits 10 d.digits
  let lead : Int := d.exponent + ds.length - 1
  if l.leastPlain ≤ lead ∧ lead ≤ l.greatestPlain then
    if 0 ≤ d.exponent then
      .ofList (ds ++ List.replicate d.exponent.toNat '0' ++ ['.', '0'])
    else if 0 ≤ lead then
      .ofList (ds.take (lead.toNat + 1) ++ '.' :: ds.drop (lead.toNat + 1))
    else
      .ofList ('0' :: '.' :: List.replicate (-lead - 1).toNat '0' ++ ds)
  else
    let sign := if 0 ≤ lead then "+" else "-"
    let rest := if ds.length ≤ 1 then [] else '.' :: ds.drop 1
    .ofList (ds.take 1 ++ rest) ++ "e" ++ sign ++ toString lead.natAbs

/-- Numbers from 10^-5 up to 10^16 are written without an exponent. -/
def numberLayout : Layout := ⟨-5, 15⟩

def Binary64.text (x : Binary64) : String :=
  let sign := if x.negative then "-" else ""
  if x.units = 0 then sign ++ "0.0" else sign ++ numberLayout.write (shortest x.units)

end EdgeRender.Decimal
