/-! # Lines and occurrences

A text as a sequence of lines, each ended by a line feed, and the counting of a
needle in it. A carriage return before the line feed belongs to the line end. The
last line may lack its end; then a carriage return at its end is text.
-/
namespace EdgeRender.Text

def dropReturn (line : List Char) : List Char :=
  if line.getLast? = some '\r' then line.dropLast else line

/-- The lines of a text. A text that ends with a line feed has no empty line after it. -/
def linesFrom (current : List Char) : List Char → List (List Char)
  | [] => if current.isEmpty then [] else [current.reverse]
  | c :: rest =>
    if c = '\n' then dropReturn current.reverse :: linesFrom [] rest
    else linesFrom (c :: current) rest

def lines (s : String) : List String :=
  (linesFrom [] s.toList).map .ofList

/-- Occurrences of `needle` from left to right that do not overlap. After a hit the
rest of the needle is skipped. The empty needle occurs before every character and
at the end. -/
def occurrencesFrom (needle : List Char) : Nat → List Char → Nat
  | _, [] => if needle.isEmpty then 1 else 0
  | skip + 1, _ :: rest => occurrencesFrom needle skip rest
  | 0, c :: rest =>
    if needle.isPrefixOf (c :: rest) then
      1 + occurrencesFrom needle (needle.length - 1) rest
    else occurrencesFrom needle 0 rest

def occurrences (needle text : String) : Nat :=
  occurrencesFrom needle.toList 0 text.toList

def hasInfix (needle : List Char) : List Char → Bool
  | [] => needle.isEmpty
  | c :: rest => needle.isPrefixOf (c :: rest) || hasInfix needle rest

def contains (needle text : String) : Bool :=
  hasInfix needle.toList text.toList

end EdgeRender.Text
