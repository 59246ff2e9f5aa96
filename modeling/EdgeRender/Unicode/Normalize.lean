import EdgeRender.Unicode.Composition

/-! # Canonical composition

Normalization form C: take characters apart, order the marks behind each starter by
their combining class, and put together what composes.
-/
namespace EdgeRender.Unicode

/-! ## The Hangul script -/

def hangulBase : Nat := 0xAC00
def leadBase : Nat := 0x1100
def vowelBase : Nat := 0x1161
def tailBase : Nat := 0x11A7

/-- A syllable is a lead, a vowel and maybe a tail. -/
def decomposeHangul? (c : Nat) : Option (List Nat) :=
  if hangulBase ≤ c ∧ c < hangulBase + 11172 then
    let s := c - hangulBase
    let lead := leadBase + s / 588
    let vowel := vowelBase + s % 588 / 28
    if s % 28 = 0 then some [lead, vowel] else some [lead, vowel, tailBase + s % 28]
  else none

def composeHangul? (a b : Nat) : Option Nat :=
  if leadBase ≤ a ∧ a < leadBase + 19 ∧ vowelBase ≤ b ∧ b < vowelBase + 21 then
    some (hangulBase + ((a - leadBase) * 21 + (b - vowelBase)) * 28)
  else if hangulBase ≤ a ∧ a < hangulBase + 11172 ∧ (a - hangulBase) % 28 = 0 ∧
      tailBase < b ∧ b < tailBase + 28 then
    some (a + (b - tailBase))
  else none

/-! ## Decomposition -/

/-- One step of the canonical decomposition. -/
def decomposeOnce? (c : Nat) : Option (List Nat) :=
  if c < 0xC0 then none
  else (decomposeHangul? c).orElse fun _ =>
    (composites.target? c).orElse fun _ => decomposed.target? c

/-- The canonical decomposition, in at most as many steps as the first argument. -/
def decomposeSteps : Nat → Nat → List Nat
  | 0, c => [c]
  | steps + 1, c =>
    match decomposeOnce? c with
    | some parts => parts.flatMap (decomposeSteps steps)
    | none => [c]

/-- The canonical decomposition of a code point. No chain has more than four steps. -/
def decompose (c : Nat) : List Nat :=
  decomposeSteps 4 c

/-- Put a mark behind the marks whose class is not greater. -/
def insertMark (mark : Nat × Nat) : List (Nat × Nat) → List (Nat × Nat)
  | [] => [mark]
  | m :: rest => if m.2 ≤ mark.2 then m :: insertMark mark rest else mark :: m :: rest

/-- Order each run of marks by class; the first argument is the run at hand. -/
def orderMarks : List (Nat × Nat) → List (Nat × Nat) → List (Nat × Nat)
  | run, [] => run
  | run, c :: rest =>
    if c.2 = 0 then run ++ c :: orderMarks [] rest
    else orderMarks (insertMark c run) rest

/-! ## Composition -/

def compose? (a b : Nat) : Option Nat :=
  (composeHangul? a b).orElse fun _ =>
    (composites.entries.find? (·.2.2 = [a, b])).map (·.1.first)

/-- Compose a starter with what follows it. `marks` holds, last first, what stays
apart behind the starter; a mark of the same class or a greater one blocks. -/
def composeFrom (starter : Nat) (marks : List (Nat × Nat)) : List (Nat × Nat) → List Nat
  | [] => starter :: (marks.reverse.map (·.1))
  | (c, k) :: rest =>
    let blocked := match marks with
      | [] => false
      | m :: _ => k ≤ m.2
    match if blocked then none else compose? starter c with
    | some composed => composeFrom composed marks rest
    | none =>
      if k = 0 then starter :: (marks.reverse.map (·.1)) ++ composeFrom c [] rest
      else composeFrom starter ((c, k) :: marks) rest

/-- Marks without a starter stay as they are. -/
def composeAll : List (Nat × Nat) → List Nat
  | [] => []
  | (c, k) :: rest => if k = 0 then composeFrom c [] rest else c :: composeAll rest

/-- Normalization form C. -/
def normalize (s : List Char) : List Char :=
  let parts := s.flatMap fun c => decompose c.toNat
  (composeAll (orderMarks [] (parts.map fun c => (c, combiningClass c)))).map Char.ofNat

end EdgeRender.Unicode
