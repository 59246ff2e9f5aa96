import EdgeRender.Unicode.Bidi
import EdgeRender.Unicode.Joining
import EdgeRender.Unicode.Normalize
import EdgeRender.Idna.Mapping

/-! # Validity of domain labels

What a label with characters beyond ASCII has to satisfy: it is mapped and
normalized, does not begin with a mark, places its joiners between letters that they
join, and in a name with right-to-left letters follows the rule for mixed directions.
-/
namespace EdgeRender.Idna

open EdgeRender.Unicode

/-- Does the text stay the same under the mapping and under normalization? -/
def isMapped (label : List Char) : Bool :=
  label.all (fun c => mapChar c == some [c]) && normalize label == label

/-- The label does not begin with a combining mark. -/
def startsWell : List Char → Bool
  | [] => true
  | c :: _ => !marks.contains c

/-! ## Joiners -/

/-- The nearest character that joining does not pass over satisfies `p`. -/
def joins (p : Char → Bool) (cs : List Char) : Bool :=
  match cs.dropWhile joiningTransparent.contains with
  | [] => false
  | c :: _ => p c

/-- Joiners stand behind a virama; the non-joiner also between joining letters.
`before` is the text in front, last character first. -/
def joinersFit (before : List Char) : List Char → Bool
  | [] => true
  | c :: rest =>
    let afterVirama := match before with
      | [] => false
      | v :: _ => viramas.contains v
    let fits :=
      if c.val = 0x200D then afterVirama
      else if c.val = 0x200C then
        afterVirama ||
          (joins (fun l => joiningLeft.contains l || joiningDual.contains l) before &&
            joins (fun r => joiningRight.contains r || joiningDual.contains r) rest)
      else true
    fits && joinersFit (c :: before) rest

/-! ## Mixed directions -/

/-- A name is bidirectional if it has a right-to-left letter or an Arabic number. -/
def isBidirectional (s : List Char) : Bool :=
  s.any fun c => bidiClass c ∈ [.rightToLeft, .arabicLetter, .arabicNumber]

/-- The class at the end of a label, marks left out. -/
def lastClass? (classes : List BidiClass) : Option BidiClass :=
  (classes.reverse.dropWhile (· == .nonspacingMark)).head?

/-- The rule for the labels of a bidirectional name. -/
def directionsFit (label : List Char) : Bool :=
  let classes := label.map bidiClass
  let neutral : List BidiClass :=
    [.europeanNumber, .europeanSeparator, .commonSeparator, .europeanTerminator,
     .otherNeutral, .boundaryNeutral, .nonspacingMark]
  match classes with
  | [] => true
  | .leftToRight :: _ =>
    classes.all (fun k => k == .leftToRight || k ∈ neutral) &&
      (lastClass? classes).any (· ∈ [.leftToRight, .europeanNumber])
  | .rightToLeft :: _ | .arabicLetter :: _ =>
    classes.all (fun k => k ∈ [.rightToLeft, .arabicLetter, .arabicNumber] || k ∈ neutral) &&
      (lastClass? classes).any
        (· ∈ [.rightToLeft, .arabicLetter, .europeanNumber, .arabicNumber]) &&
      !(classes.contains .europeanNumber && classes.contains .arabicNumber)
  | _ => false

end EdgeRender.Idna
