import EdgeRender.Config.Runtime

/-! # Configuration files

A file whose name ends in `.json` holds JSON, any other TOML. What cannot be opened or
read, or is no UTF-8, is refused before its format matters.
-/
namespace EdgeRender

open EdgeRender.Text

/-- Why the contents of a file are not at hand. -/
inductive ReadFault where
  | notFound
  | isDirectory
  | nameTooLong
  | nulInName
  | notUtf8
  deriving DecidableEq, Repr

def ReadFault.message : ReadFault → String
  | .notFound => "No such file or directory (os error 2)"
  | .isDirectory => "Is a directory (os error 21)"
  | .nameTooLong => "File name too long (os error 36)"
  | .nulInName => "file name contained an unexpected NUL byte"
  | .notUtf8 => "stream did not contain valid UTF-8"

/-! ## Names of files -/

def maxStepBytes : Nat := 255

def maxPathBytes : Nat := 4095

/-- A step that stays in the directories there are: to none, to the same, to the one above. -/
def isDirectoryStep (step : List Char) : Bool :=
  step ∈ [[], ['.'], ['.', '.']]

/-- Why no file can have the name, if so. The first step that leaves the directories
there are counts: the later ones would be looked up behind it. -/
def nameFault? (name : String) : Option ReadFault :=
  if name.toList.contains '\x00' then some .nulInName
  else if name.isEmpty then some .notFound
  else if maxPathBytes < name.utf8ByteSize then some .nameTooLong
  else
    match (splitAt '/' name.toList).find? (!isDirectoryStep ·) with
    | none => some .isDirectory
    | some step => if maxStepBytes < (Utf8.encode step).length then some .nameTooLong else none

/-! ## Contents -/

/-- Why a configuration file is of no use. -/
inductive FileFault where
  | unreadable (cause : ReadFault)
  | badToml
  | badJson (refusal : Json.Refusal)
  deriving Repr

def FileFault.message (name : String) : FileFault → String
  | .unreadable cause => "Failed to read config file " ++ name ++ ": " ++ cause.message
  | .badToml => "Failed to parse TOML config " ++ name
  | .badJson refusal => "Failed to parse JSON config " ++ name ++ ": " ++ refusal.message

/-- What stands behind the last dot of a file name. A dot in front begins a name. -/
def extension? (name : List Char) : Option (List Char) :=
  let behind := (name.reverse.takeWhile (· != '.')).reverse
  let stem := name.length - behind.length - 1
  if behind.length < name.length ∧ 0 < stem then some behind else none

def isJsonFile (name : String) : Bool :=
  extension? name.toList == some "json".toList

/-- The bytes of a file, given its name and what stands under it, if anything does. -/
def readFile (name : String) (contents : Option (List UInt8)) : Except ReadFault (List UInt8) :=
  match nameFault? name, contents with
  | some fault, _ => .error fault
  | none, none => .error .notFound
  | none, some bytes => .ok bytes

def RuntimeConfig.ofFile (name : String) (contents : Option (List UInt8)) :
    Except FileFault RuntimeConfig :=
  match readFile name contents with
  | .error cause => .error (.unreadable cause)
  | .ok bytes =>
    match Utf8.decode bytes with
    | .error _ => .error (.unreadable .notUtf8)
    | .ok text =>
      if isJsonFile name then (codec.parseJson bytes).mapError .badJson
      else
        match codec.parseToml? text with
        | some c => .ok c
        | none => .error .badToml

end EdgeRender
