import EdgeRender.Decimal.Binary64

/-! # TOML items

A document is a tree of tables. Each table remembers how it came to be, for that
decides which later headers and dotted keys may still add to it.
-/
namespace EdgeRender.Toml

open EdgeRender.Decimal

/-- How a table came to be. -/
inductive Origin where
  /-- By a header of its own. -/
  | header
  /-- By the header of a table inside it. -/
  | implied
  /-- By a dotted key. -/
  | dotted
  /-- Between braces. -/
  | inline
  deriving DecidableEq, Repr

inductive Real where
  | finite (x : Binary64)
  | infinite (negative : Bool)
  | notANumber
  deriving DecidableEq, Repr

/-- What a key stands for. Dates and times are told from other items, and their text
has been checked, but nothing reads them. -/
inductive Item where
  | text (s : String)
  | integer (i : Int)
  | real (x : Real)
  | boolean (b : Bool)
  | moment
  | array (items : List Item)
  | table (origin : Origin) (entries : List (String × Item))
  /-- Tables under one name, each begun by a header in double brackets. -/
  | tables (elements : List (List (String × Item)))
  deriving Repr

/-- The keys of a table with their items, in the order of the document. -/
abbrev Entries := List (String × Item)

/-- Add an entry under a key that is still free. -/
def insertNew? (key : String) (item : Item) (entries : Entries) : Option Entries :=
  if (entries.lookup key).isSome then none else some (entries ++ [(key, item)])

def replace (key : String) (item : Item) (entries : Entries) : Entries :=
  entries.map fun (k, old) => if k = key then (k, item) else (k, old)

/-- Change the table that a path of keys leads to. Tables missing on the way are made
with the origin `made`. A path of dots may not enter a table with a header, and no
path enters a table between braces from outside; the last of several tables under one
name stands for all of them. -/
def within (made : Origin) (enters : Origin → Bool)
    (change : Origin → Entries → Option Entries) :
    List String → Origin → Entries → Option Entries
  | [], origin, entries => change origin entries
  | key :: path, _, entries =>
    match entries.lookup key with
    | none => do
      let inner ← within made enters change path made []
      pure (entries ++ [(key, .table made inner)])
    | some (.table origin inner) =>
      if enters origin then do
        let inner ← within made enters change path origin inner
        pure (replace key (.table origin inner) entries)
      else none
    | some (.tables elements) => do
      let last ← elements.getLast?
      let inner ← within made enters change path .header last
      pure (replace key (.tables (elements.dropLast ++ [inner])) entries)
    | some _ => none

/-- Change the table that the path of a header leads to. -/
def withinHeader (path : List String) (change : Origin → Entries → Option Entries) :
    Entries → Option Entries :=
  within .implied (· != .inline) change path .header

/-- Enter an item under a dotted key, in a document's table. What the dots lead to has
to be a table of dotted keys only. -/
def insertDotted (path : List String) (key : String) (item : Item) : Entries → Option Entries :=
  within .dotted (fun o => o == .implied || o == .dotted)
    (fun origin entries =>
      if path.isEmpty || origin == .dotted then insertNew? key item entries else none)
    path .header

/-- Begin the table of a header. Only a table that longer headers implied may exist. -/
def beginTable (key : String) (entries : Entries) : Option Entries :=
  match entries.lookup key with
  | none => some (entries ++ [(key, .table .header [])])
  | some (.table .implied inner) => some (replace key (.table .header inner) entries)
  | some _ => none

/-- Begin one more table of a header in double brackets. -/
def beginElement (key : String) (entries : Entries) : Option Entries :=
  match entries.lookup key with
  | none => some (entries ++ [(key, .tables [[]])])
  | some (.tables elements) => some (replace key (.tables (elements ++ [[]])) entries)
  | some _ => none

end EdgeRender.Toml
