import EdgeRender.Text.Lines

/-! # Log buffers

A log kept in memory: one text, to which lines are appended.
-/
namespace EdgeRender.Log

open EdgeRender.Text

/-- A log in memory. -/
structure Buffer where
  contents : String := ""
  deriving DecidableEq, Repr

namespace Buffer

def writeLine (b : Buffer) (line : String) : Buffer :=
  ⟨b.contents ++ line ++ "\n"⟩

def writeLines (b : Buffer) (lines : List String) : Buffer :=
  lines.foldl writeLine b

@[simp] theorem writeLines_nil (b : Buffer) : b.writeLines [] = b := rfl

@[simp] theorem writeLines_cons (b : Buffer) (line : String) (lines : List String) :
    b.writeLines (line :: lines) = (b.writeLine line).writeLines lines := rfl

theorem writeLines_append (b : Buffer) (lines more : List String) :
    b.writeLines (lines ++ more) = (b.writeLines lines).writeLines more :=
  List.foldl_append

/-- The characters of a buffer: those of each line, with a line feed behind it. -/
theorem toList_contents_writeLines (b : Buffer) (lines : List String) :
    (b.writeLines lines).contents.toList =
      b.contents.toList ++ lines.flatMap fun line => line.toList ++ ['\n'] := by
  induction lines generalizing b with
  | nil => simp
  | cons line lines ih => simp [ih, writeLine]

def clear (_ : Buffer) : Buffer := {}

def contains (b : Buffer) (needle : String) : Bool :=
  Text.contains needle b.contents

/-- How often `needle` occurs, from left to right and without overlap. -/
def count (b : Buffer) (needle : String) : Nat :=
  occurrences needle b.contents

def lines (b : Buffer) : List String :=
  Text.lines b.contents

end Buffer
end EdgeRender.Log
