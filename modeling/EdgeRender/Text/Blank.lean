/-! # Blank characters

The characters with the Unicode property White_Space, and trimming by it. ASCII
letter case is kept here too: configuration words and header names ignore it.
-/
namespace EdgeRender.Text

/-- The Unicode property White_Space: 25 characters. -/
def isBlank (c : Char) : Bool :=
  (0x09 ≤ c.val && c.val ≤ 0x0D) || c.val == 0x20 || c.val == 0x85 || c.val == 0xA0 ||
  c.val == 0x1680 || (0x2000 ≤ c.val && c.val ≤ 0x200A) || c.val == 0x2028 ||
  c.val == 0x2029 || c.val == 0x202F || c.val == 0x205F || c.val == 0x3000

/-- Drop the characters satisfying `p` from both ends. -/
def trimEnds (p : Char → Bool) (s : List Char) : List Char :=
  ((s.dropWhile p).reverse.dropWhile p).reverse

/-- The text without blank characters at its ends. -/
def trim (s : String) : String :=
  .ofList (trimEnds isBlank s.toList)

/-- ASCII capitals become small letters; every other character stays. -/
def lowerAscii (s : String) : String :=
  .ofList (s.toList.map Char.toLower)

/-- Equality of names up to the case of ASCII letters. -/
def sameAsciiName (a b : String) : Bool :=
  lowerAscii a == lowerAscii b

/-- Split at every occurrence of `sep`, which no part contains. -/
def splitAt (sep : Char) : List Char → List (List Char)
  | [] => [[]]
  | c :: rest =>
    if c = sep then [] :: splitAt sep rest
    else
      match splitAt sep rest with
      | [] => [[c]]
      | part :: parts => (c :: part) :: parts

def joinWith (sep : List Char) : List (List Char) → List Char
  | [] => []
  | [part] => part
  | part :: parts => part ++ sep ++ joinWith sep parts

/-- A split has at least one part. -/
theorem splitAt_ne_nil (sep : Char) (s : List Char) : splitAt sep s ≠ [] := by
  cases s with
  | nil => simp [splitAt]
  | cons c rest => unfold splitAt; split <;> (try split) <;> simp

end EdgeRender.Text
