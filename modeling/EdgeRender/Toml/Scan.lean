import EdgeRender.Text.Hex
import EdgeRender.Toml.Item

/-! # The words of a TOML text

Keys, strings, numbers, dates, comments and line ends. A scanner takes characters from
the front of the text or fails; it says no more about a failure.
-/
namespace EdgeRender.Toml

open EdgeRender.Text EdgeRender.Decimal

abbrev Scan := StateT (List Char) Option

def peek? : Scan (Option Char) := fun s => some (s.head?, s)

def next : Scan Char
  | [] => none
  | c :: s => some (c, s)

def charsLeft : Scan Nat := fun s => some (s.length, s)

def takeWhile (p : Char → Bool) : Scan (List Char) := fun s =>
  some (s.takeWhile p, s.dropWhile p)

def satisfying (p : Char → Bool) : Scan Char := do
  let c ← next
  if p c then pure c else failure

def char (c : Char) : Scan Unit :=
  discard (satisfying (· == c))

def word (w : String) : Scan Unit :=
  w.toList.forM char

def optional (scan : Scan α) : Scan (Option α) :=
  (some <$> scan) <|> pure none

/-! ## Blanks, comments and line ends -/

/-- Characters that may stand in comments and strings. -/
def isText (c : Char) : Bool :=
  c == '\t' || (' ' ≤ c && c ≤ '~') || 0x80 ≤ c.val

def isBlank (c : Char) : Bool := c == ' ' || c == '\t'

def blanks : Scan Unit := discard (takeWhile isBlank)

def newline : Scan Unit
  | '\n' :: s => some ((), s)
  | '\r' :: '\n' :: s => some ((), s)
  | _ => none

def comment : Scan Unit := do
  char '#'
  discard (takeWhile isText)

/-- A line feed, or the end of the text. -/
def lineEnd : Scan Unit
  | [] => some ((), [])
  | s => newline s

def lineRest : Scan Unit := do
  blanks
  discard (optional comment)
  lineEnd

/-- Skip blanks, comments and line ends; `bound` is at least their number. -/
def skipLines : Nat → Scan Unit
  | 0 => pure ()
  | bound + 1 => do
    match ← optional (discard (satisfying isBlank) <|> newline <|> comment) with
    | some () => skipLines bound
    | none => pure ()

def betweenItems : Scan Unit := do skipLines (← charsLeft)

/-! ## Strings -/

def codePoint (n : Nat) : Scan Char := fun s =>
  let digits := s.take n
  if digits.length = n then do
    let values ← digits.mapM hexValue?
    let code := values.foldl (fun m d => m * 16 + d) 0
    if code.isValidChar then some (.ofNat code, s.drop n) else none
  else none

/-- An escape behind its backslash. -/
def escape : Scan Char := do
  match ← next with
  | 'b' => pure '\x08'
  | 't' => pure '\t'
  | 'n' => pure '\n'
  | 'f' => pure '\x0c'
  | 'r' => pure '\r'
  | '"' => pure '"'
  | '\\' => pure '\\'
  | 'u' => codePoint 4
  | 'U' => codePoint 8
  | _ => failure

def basicText : Nat → Scan (List Char)
  | 0 => failure
  | bound + 1 => do
    let c ← next
    if c == '"' then pure []
    else
      let c ← if c == '\\' then escape else if isText c then pure c else failure
      let rest ← basicText bound
      pure (c :: rest)

def basicString : Scan (List Char) := do
  char '"'
  basicText (← charsLeft)

def literalString : Scan (List Char) := do
  char '\''
  let text ← takeWhile fun c => isText c && c != '\''
  char '\''
  pure text

/-- A backslash, blanks and a line end, behind the backslash. -/
def continuation : Scan Unit := do
  blanks
  newline
  betweenLines
where
  /-- More blanks and line ends. -/
  betweenLines : Scan Unit := do skip (← charsLeft)
  skip : Nat → Scan Unit
    | 0 => pure ()
    | bound + 1 => do
      match ← optional (discard (satisfying isBlank) <|> newline) with
      | some () => skip bound
      | none => pure ()

/-- A string of many lines behind its three quotes. Up to two quotes may stand
anywhere in it, also right before the three that end it. -/
def longText (quote : Char) (escapes : Bool) : Nat → Scan (List Char)
  | 0 => failure
  | bound + 1 => do
    match ← peek? with
    | none => failure
    | some c =>
      if c == quote then
        let quotes ← takeWhile (· == quote)
        if 6 ≤ quotes.length then failure
        else if 3 ≤ quotes.length then pure (quotes.drop 3)
        else
          let rest ← longText quote escapes bound
          pure (quotes ++ rest)
      else if escapes && c == '\\' then
        discard next
        let text ← ((fun _ => []) <$> continuation) <|> ((fun c => [c]) <$> escape)
        let rest ← longText quote escapes bound
        pure (text ++ rest)
      else
        let c ← (do newline; pure '\n') <|> satisfying isText
        let rest ← longText quote escapes bound
        pure (c :: rest)

def longString (quote : Char) (escapes : Bool) : Scan (List Char) := do
  char quote
  char quote
  char quote
  discard (optional newline)
  longText quote escapes (← charsLeft)

def string : Scan String :=
  String.ofList <$>
    (longString '"' true <|> basicString <|> longString '\'' false <|> literalString)

/-! ## Keys -/

def isBareKeyChar (c : Char) : Bool := c.isAlphanum || c == '-' || c == '_'

def bareKey : Scan (List Char) := do
  let key ← takeWhile isBareKeyChar
  if key.isEmpty then failure else pure key

def simpleKey : Scan String := do
  blanks
  let key ← basicString <|> literalString <|> bareKey
  blanks
  pure (.ofList key)

/-- The keys between dots after the first. -/
def keysAfter : Nat → Scan (List String)
  | 0 => pure []
  | bound + 1 => do
    match ← optional (do char '.'; simpleKey) with
    | none => pure []
    | some key =>
      let keys ← keysAfter bound
      pure (key :: keys)

/-- A key has fewer parts than this, and items nest less deep. -/
def depthLimit : Nat := 80

/-- A dotted key, split before its last part. -/
def dottedKey : Scan (List String × String) := do
  let key ← simpleKey
  let keys ← keysAfter (← charsLeft)
  if keys.length + 1 < depthLimit then
    pure ((key :: keys).dropLast, (key :: keys).getLast (by simp))
  else failure

/-! ## Numbers -/

/-- Digits in which single underscores stand between digits. -/
def groupsFrom (isDigit : Char → Bool) : List Char → List Char × List Char
  | '_' :: d :: rest =>
    if isDigit d then
      let (ds, rest) := groupsFrom isDigit rest
      (d :: ds, rest)
    else ([], '_' :: d :: rest)
  | c :: rest =>
    if isDigit c then
      let (ds, rest) := groupsFrom isDigit rest
      (c :: ds, rest)
    else ([], c :: rest)
  | [] => ([], [])

/-- At least one digit. -/
def digitGroups (isDigit : Char → Bool) : Scan (List Char) := do
  let d ← satisfying isDigit
  fun s =>
    let (ds, rest) := groupsFrom isDigit s
    some (d :: ds, rest)

def numberOf (base : Nat) (digits : List Char) : Nat :=
  digits.foldl (fun n c => n * base + (hexValue? c).getD 0) 0

/-- A sign; is it a minus? -/
def sign : Scan Bool := do
  match ← optional (satisfying fun c => c == '+' || c == '-') with
  | some c => pure (c == '-')
  | none => pure false

/-- Decimal digits without a zero in front. -/
def wholeDigits : Scan (List Char) := do
  if (← peek?) = some '0' then
    discard next
    pure ['0']
  else digitGroups Char.isDigit

def based (mark : Char) (base : Nat) (isDigit : Char → Bool) : Scan Nat := do
  char '0'
  char mark
  numberOf base <$> digitGroups isDigit

/-- Two to the power 63: whole numbers have 64 bits and a sign. -/
def integerBound : Int := 9223372036854775808

def integer : Scan Int := do
  let i ← (Int.ofNat <$> based 'x' 16 (fun c => (hexValue? c).isSome)) <|>
    (Int.ofNat <$> based 'o' 8 (fun c => '0' ≤ c && c ≤ '7')) <|>
    (Int.ofNat <$> based 'b' 2 (fun c => c == '0' || c == '1')) <|>
    (do
      let negative ← sign
      let n := numberOf 10 (← wholeDigits)
      pure (if negative then -(n : Int) else n))
  if -integerBound ≤ i ∧ i < integerBound then pure i else failure

def exponent : Scan Int := do
  discard (satisfying fun c => c == 'e' || c == 'E')
  let negative ← sign
  let n := numberOf 10 (← digitGroups Char.isDigit)
  pure (if negative then -(n : Int) else n)

/-- The number of decimal digits and an exponent. Exponents far out of range need no
arithmetic: the number is zero or infinite. -/
def realOf (negative : Bool) (digits : List Char) (exponent : Int) : Real :=
  let n := numberOf 10 digits
  let lead : Int := (Nat.toDigits 10 n).length + exponent
  if n = 0 ∨ lead < -330 then .finite ⟨negative, 0⟩
  else if 310 < lead then .infinite negative
  else
    let units :=
      if 0 ≤ exponent then Binary64.ofRatio? (n * tenTo exponent.toNat) 1
      else Binary64.ofRatio? n (tenTo (-exponent).toNat)
    match units with
    | some units => .finite ⟨negative, units⟩
    | none => .infinite negative

/-- A number with a fraction or an exponent. One too great is refused, one too small,
below all numbers, counts as infinite. -/
def decimal : Scan Real := do
  let negative ← sign
  let whole ← wholeDigits
  let (fraction, e) ←
    (do let e ← exponent; pure ([], e)) <|>
    (do
      char '.'
      let fraction ← digitGroups Char.isDigit
      let e ← optional exponent
      pure (fraction, e.getD 0))
  match realOf negative (whole ++ fraction) (e - (fraction.length : Int)) with
  | .infinite false => failure
  | x => pure x

def specialReal : Scan Real := do
  let negative ← sign
  (do word "inf"; pure (.infinite negative)) <|> (do word "nan"; pure .notANumber)

/-! ## Dates and times -/

def fixedDigits (n : Nat) : Scan Nat := fun s =>
  let digits := (s.take n).takeWhile Char.isDigit
  if digits.length = n then some (numberOf 10 digits, s.drop n) else none

def twoDigits (least greatest : Nat) : Scan Nat := do
  let n ← fixedDigits 2
  if least ≤ n ∧ n ≤ greatest then pure n else failure

def isLeapYear (year : Nat) : Bool :=
  year % 4 == 0 && (year % 100 != 0 || year % 400 == 0)

def daysIn (year month : Nat) : Nat :=
  if month = 2 then if isLeapYear year then 29 else 28
  else if month ∈ [4, 6, 9, 11] then 30 else 31

def date : Scan Unit := do
  let year ← fixedDigits 4
  char '-'
  let month ← twoDigits 1 12
  char '-'
  let day ← twoDigits 1 31
  if daysIn year month < day then failure

def time : Scan Unit := do
  discard (twoDigits 0 23)
  char ':'
  discard (twoDigits 0 59)
  char ':'
  discard (twoDigits 0 60)
  discard (optional do
    char '.'
    discard (satisfying Char.isDigit)
    discard (takeWhile Char.isDigit))

def offset : Scan Unit :=
  discard (satisfying fun c => c == 'Z' || c == 'z') <|> do
    discard (satisfying fun c => c == '+' || c == '-')
    discard (twoDigits 0 23)
    char ':'
    discard (twoDigits 0 59)

/-- A date, a time, or both with an optional offset. -/
def moment : Scan Unit :=
  (do
    date
    discard (optional do
      discard (satisfying fun c => c == 'T' || c == 't' || c == ' ')
      time
      discard (optional offset))) <|> time

end EdgeRender.Toml
