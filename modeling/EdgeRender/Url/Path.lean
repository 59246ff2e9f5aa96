import EdgeRender.Url.Percent

/-! # Paths

The segments of a path. Segments of one dot and of two dots are resolved, except that
two dots leave a drive letter in place.
-/
namespace EdgeRender.Url

/-- A letter with a colon or a bar behind it begins like a drive letter, if nothing or
a slash of either kind follows. -/
def isDriveLike : List Char → Bool
  | letter :: mark :: rest =>
    letter.isAlpha && (mark == ':' || mark == '|') &&
      (rest.isEmpty || rest.head? == some '\\')
  | _ => false

/-- Exactly a letter with a colon or a bar. -/
def isDriveLetter (segment : List Char) : Bool :=
  segment.length == 2 && isDriveLike segment

/-- A dot, plain or with a percent sign. -/
def dropDot? : List Char → Option (List Char)
  | '.' :: rest | '%' :: '2' :: 'e' :: rest | '%' :: '2' :: 'E' :: rest => some rest
  | _ => none

def isSingleDot (segment : List Char) : Bool :=
  dropDot? segment == some []

def isDoubleDot (segment : List Char) : Bool :=
  (dropDot? segment).bind dropDot? == some []

/-- Drop the last segment, unless it is a drive letter. -/
def shorten (done : List (List Char)) : List (List Char) :=
  if (done.getLast?).any isDriveLike then done else done.dropLast

/-- Put a segment behind others; two dots take the last one away, one dot does nothing. -/
def putSegment (done : List (List Char)) (segment : List Char) : List (List Char) :=
  if isDoubleDot segment then shorten done
  else if isSingleDot segment then done
  else done ++ [segment]

/-- Put the last segment of a path behind others; dots leave an empty one. -/
def putLast (done : List (List Char)) (segment : List Char) : List (List Char) :=
  if isDoubleDot segment || isSingleDot segment then putSegment done segment ++ [[]]
  else done ++ [segment]

def resolveSegments : List (List Char) → List (List Char) → List (List Char)
  | done, [] => done
  | done, [segment] => putLast done segment
  | done, segment :: rest => resolveSegments (putSegment done segment) rest

/-- Empty segments in front are dropped as long as one segment is left. -/
def dropEmptyAhead : List (List Char) → List (List Char)
  | [] :: segment :: rest => dropEmptyAhead (segment :: rest)
  | segments => segments

/-- The text of a path: a slash in front of every segment. -/
def pathText (segments : List (List Char)) : List Char :=
  segments.flatMap ('/' :: ·)

end EdgeRender.Url
