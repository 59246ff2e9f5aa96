import EdgeRender.Url.Path

/-! # Drive letters in front of a path

A path of the scheme `file` may begin with a drive letter. If the drive letter is the
whole first segment, it takes the place of the host. If a tab or a line end stands
between the drive letter and the rest of its segment, the path is broken there: the
drive letter is a segment of its own, and the rest is another, whatever it is. Tabs
and line ends mean nothing anywhere else.
-/
namespace EdgeRender.Url

/-- Tabs and line ends. -/
def isIgnored (c : Char) : Bool := c == '\t' || c == '\n' || c == '\r'

/-- What a text is without tabs and line ends. -/
def kept (s : List Char) : List Char := s.filter (!isIgnored ·)

/-- What stands behind the first `n` characters that are kept. -/
def dropKept : Nat → List Char → List Char
  | 0, s => s
  | _, [] => []
  | n + 1, c :: rest => if isIgnored c then dropKept (n + 1) rest else dropKept n rest

/-- Counting as if the ignored characters were away drops the same. -/
@[simp] theorem kept_dropKept (n : Nat) (s : List Char) :
    kept (dropKept n s) = (kept s).drop n := by
  fun_induction dropKept n s with
  | case1 => simp
  | case2 => simp [kept]
  | case3 n c rest h ih => simp_all [kept]
  | case4 n c rest h ih => simp_all [kept]

/-- Is the segment a letter and a colon, an ignored character, and something more? -/
def breaksBehindDrive (segment : List Char) : Bool :=
  match kept segment with
  | letter :: ':' :: _ :: _ => letter.isAlpha && (dropKept 2 segment).head?.any isIgnored
  | _ => false

/-- A segment as it stands in a path. -/
def writtenSegment (segment : List Char) : List Char :=
  percentEncode escapedInPath (kept segment)

/-- Resolve the segments of a path of the scheme `file`, tabs and line ends among them.
There are none if a drive letter becomes the first segment. -/
def resolveFileSegments? : List (List Char) → List (List Char) → Option (List (List Char))
  | done, [] => some done
  | done, segment :: rest =>
    let written := writtenSegment segment
    if done.isEmpty && isDriveLetter written then none
    else if done.isEmpty && breaksBehindDrive segment then
      some (resolveSegments [written.take 2, written.drop 2] (rest.map writtenSegment))
    else if rest.isEmpty then some (putLast done written)
    else resolveFileSegments? (putSegment done written) rest

end EdgeRender.Url
