import EdgeRender.Text.Blank
import EdgeRender.Text.Hex

/-! # Tables of character properties

A property of characters is written as a text of entries, with blanks or a line end
between two of them. An entry names code points in base sixteen: one (`AD`), a stretch
(`600-605`), or every second one of a stretch (`100-12E/2`). In a table of mappings
a target follows: after `:` the target moves along with the code point, after `=`
the whole stretch has the same target.
-/
namespace EdgeRender.Unicode

open EdgeRender.Text

/-- Code points from `first` to `last`, each `step` after the one before. -/
structure Stretch where
  first : Nat
  last : Nat
  step : Nat := 1
  deriving DecidableEq, Repr

def Stretch.contains (s : Stretch) (c : Nat) : Bool :=
  s.first ≤ c && c ≤ s.last && (c - s.first) % s.step == 0

/-- Read a number in base sixteen; other characters count as nothing. -/
def readHex (s : List Char) : Nat :=
  s.foldl (fun n c => match hexValue? c with | some d => n * 16 + d | none => n) 0

def readStretch (s : List Char) : Stretch :=
  match splitAt '-' s with
  | [first, last] =>
    match splitAt '/' last with
    | [last, step] => ⟨readHex first, readHex last, readHex step⟩
    | _ => ⟨readHex first, readHex last, 1⟩
  | _ => ⟨readHex s, readHex s, 1⟩

def entriesOf (text : String) : List (List Char) :=
  (splitAt ' ' (text.toList.map fun c => if c = '\n' then ' ' else c)).filter (!·.isEmpty)

structure CharSet where
  stretches : List Stretch

def CharSet.contains (t : CharSet) (c : Char) : Bool :=
  t.stretches.any (·.contains c.toNat)

def CharSet.read (text : String) : CharSet :=
  ⟨(entriesOf text).map readStretch⟩

/-- A mapping of code points to short sequences of them. -/
structure Mapping where
  entries : List (Stretch × Bool × List Nat)

def readMappingEntry (s : List Char) : Stretch × Bool × List Nat :=
  match splitAt ':' s with
  | [source, target] => (readStretch source, true, (splitAt ',' target).map readHex)
  | _ =>
    match splitAt '=' s with
    | [source, target] => (readStretch source, false, (splitAt ',' target).map readHex)
    | _ => (readStretch s, false, [])

def Mapping.read (text : String) : Mapping :=
  ⟨(entriesOf text).map readMappingEntry⟩

/-- The target of a code point, moved along its stretch if the entry says so. -/
def Mapping.target? (m : Mapping) (c : Nat) : Option (List Nat) :=
  match m.entries.find? (·.1.contains c) with
  | some (s, true, t :: ts) => some ((t + (c - s.first)) :: ts)
  | some (_, _, ts) => some ts
  | none => none

end EdgeRender.Unicode
