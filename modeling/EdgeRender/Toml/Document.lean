import EdgeRender.Toml.Scan

/-! # TOML documents

Items with their brackets and braces, and the lines of a document: headers and
entries, gathered into the tree of tables.
-/
namespace EdgeRender.Toml

/-- Items between commas; the list may end with a comma and may break lines. -/
def itemsFrom (item : Scan Item) : Nat → Scan (List Item)
  | 0 => failure
  | bound + 1 => do
    betweenItems
    match ← optional (char ']') with
    | some () => pure []
    | none =>
      let x ← item
      betweenItems
      match ← optional (char ',') with
      | some () =>
        let xs ← itemsFrom item bound
        pure (x :: xs)
      | none =>
        char ']'
        pure [x]

/-- Enter an item under a dotted key between braces. -/
def insertInline (path : List String) (key : String) (item : Item) : Entries → Option Entries :=
  within .dotted (· == .dotted) (fun _ => insertNew? key item) path .inline

/-- Entries between commas up to the closing brace. -/
def entriesFrom (item : Scan Item) : Nat → Entries → Scan Entries
  | 0, _ => failure
  | bound + 1, entries => do
    let (path, key) ← dottedKey
    char '='
    blanks
    let x ← item
    blanks
    let entries ← insertInline path key x entries
    match ← optional (char ',') with
    | some () => entriesFrom item bound entries
    | none =>
      char '\x7d'
      pure entries

def inlineTable (item : Scan Item) : Scan Entries :=
  (do blanks; char '\x7d'; pure []) <|> (do entriesFrom item (← charsLeft) [])

def array (item : Scan Item) : Scan (List Item) := do
  itemsFrom item (← charsLeft)

def scalar (first : Char) : Scan Item :=
  if first == '"' || first == '\'' then .text <$> string
  else if first == '+' || first == '-' || first.isDigit then
    (do moment; pure .moment) <|> (.real <$> decimal) <|> (.integer <$> integer) <|>
      (.real <$> specialReal)
  else if first == 't' then do word "true"; pure (.boolean true)
  else if first == 'f' then do word "false"; pure (.boolean false)
  else .real <$> specialReal

/-- An item whose inner items `inner?` reads; none are allowed without it. -/
def itemOf (inner? : Option (Scan Item)) : Scan Item := do
  let first ← peek?
  match first, inner? with
  | none, _ => failure
  | some '[', some inner => do discard next; .array <$> array inner
  | some '\x7b', some inner => do discard next; .table .inline <$> inlineTable inner
  | some c, _ => scalar c

/-- An item whose brackets nest `depth` deep at most. -/
def item : Nat → Scan Item
  | 0 => itemOf none
  | depth + 1 => itemOf (some (item depth))

/-- The tree so far, and the table that entries go to. -/
structure Draft where
  entries : Entries
  current : List String

def entryLine (draft : Draft) : Scan Draft := do
  let (path, key) ← dottedKey
  char '='
  blanks
  let x ← item (depthLimit - 1)
  lineRest
  let entries ←
    withinHeader draft.current (fun _ => insertDotted path key x) draft.entries
  pure { draft with entries }

def headerLine (draft : Draft) : Scan Draft := do
  char '['
  let double := (← optional (char '[')).isSome
  let (path, key) ← dottedKey
  char ']'
  if double then char ']'
  lineRest
  let begin := if double then beginElement key else beginTable key
  let entries ← withinHeader path (fun _ => begin) draft.entries
  pure ⟨entries, path ++ [key]⟩

def linesFrom : Nat → Draft → Scan Draft
  | 0, draft => pure draft
  | bound + 1, draft => do
    blanks
    match ← peek? with
    | none => pure draft
    | some c =>
      if c == '#' then
        comment
        lineEnd
        linesFrom bound draft
      else if c == '[' then linesFrom bound (← headerLine draft)
      else if c == '\n' || c == '\r' then
        newline
        linesFrom bound draft
      else linesFrom bound (← entryLine draft)

/-- The mark that may stand in front of a text. -/
def byteOrderMark : Char := '\uFEFF'

def parse? (text : List Char) : Option Entries := do
  let text := if text.head? = some byteOrderMark then text.drop 1 else text
  let (draft, rest) ← linesFrom (text.length + 1) ⟨[], []⟩ text
  if rest.isEmpty then some draft.entries else none

end EdgeRender.Toml
