import EdgeRender.Url.Basic
import EdgeRender.Url.Drive

/-! # Reading URLs

The parser of the URL standard, without a base. Special schemes take backslashes for
slashes, any number of slashes before the host, and have a default port; other schemes
need two slashes. Blanks and control characters at the ends are dropped, and so are tabs
and line ends anywhere, but for those behind a drive letter.
-/
namespace EdgeRender.Url

open EdgeRender.Text

inductive SchemeKind where
  | file
  | special (defaultPort : Nat)
  | other
  deriving DecidableEq, Repr

def SchemeKind.isSpecial : SchemeKind → Bool
  | .file | .special _ => true
  | .other => false

def SchemeKind.ofScheme (scheme : List Char) : SchemeKind :=
  match String.ofList scheme with
  | "http" | "ws" => .special 80
  | "https" | "wss" => .special 443
  | "ftp" => .special 21
  | "file" => .file
  | _ => .other

/-- Drop blanks and control characters at the ends. -/
def trimmed (s : List Char) : List Char :=
  trimEnds (·.val ≤ 0x20) s

def isSchemeChar (c : Char) : Bool :=
  c.isAlphanum || c == '+' || c == '-' || c == '.'

def splitScheme? (s : List Char) : Option (List Char × List Char) :=
  let scheme := s.takeWhile isSchemeChar
  if !(s.head?.any Char.isAlpha) then none
  else
    match s.drop scheme.length with
    | ':' :: rest => some (scheme.map Char.toLower, rest)
    | _ => none

def isSlash (special : Bool) (c : Char) : Bool :=
  c == '/' || (special && c == '\\')

/-- Does the character end the part of a URL before its path? -/
def endsAuthority (special : Bool) (c : Char) : Bool :=
  isSlash special c || c == '?' || c == '#'

/-- User name and password of the text before the last `@`, and what follows it. -/
def splitUserInfo (special : Bool) (s : List Char) :
    Except Fault (List Char × List Char × List Char) :=
  let authority := s.takeWhile (!endsAuthority special ·)
  if '@' ∉ authority then .ok ([], [], s)
  else
    let host := (authority.reverse.takeWhile (· != '@')).reverse
    let userInfo := authority.take (authority.length - host.length - 1)
    let rest := s.drop (userInfo.length + 1)
    if userInfo.isEmpty && rest.head?.any (endsAuthority special) then .error .emptyHost
    else
      let username := userInfo.takeWhile (· != ':')
      let password := userInfo.drop (username.length + 1)
      .ok (percentEncode escapedInUserInfo username, percentEncode escapedInUserInfo password,
        rest)

/-- The text of a host: up to a colon outside brackets, or to the end of the part
before the path. -/
def hostPrefix (special : Bool) : Bool → List Char → List Char
  | _, [] => []
  | inBrackets, c :: rest =>
    if endsAuthority special c || (c == ':' && !inBrackets) then []
    else c :: hostPrefix special (c == '[' || (inBrackets && c != ']')) rest

/-- Read the digits of a port; the number of digits read comes first. -/
def portDigits : Nat → Nat → List Char → Except Fault (Nat × Nat × List Char)
  | count, port, [] => .ok (count, port, [])
  | count, port, c :: rest =>
    if c.isDigit then
      let port := port * 10 + (c.toNat - 48)
      if 65535 < port then .error .badPort else portDigits (count + 1) port rest
    else if endsAuthority true c then .ok (count, port, c :: rest)
    else .error .badPort

/-- The port behind a colon, unless it is the default one. -/
def splitPort (kind : SchemeKind) (s : List Char) : Except Fault (Option Nat × List Char) := do
  if s.head? = some ':' then
    let (count, port, rest) ← portDigits 0 0 (s.drop 1)
    let isDefault := kind == .special port
    pure (if count = 0 || isDefault then none else some port, rest)
  else pure (none, s)

/-- The text of a path at the front of a text, and what follows it. -/
def splitPath (s : List Char) : List Char × List Char :=
  s.span fun c => c != '?' && c != '#'

def segmentsOf (special : Bool) (path : List Char) : List (List Char) :=
  let path := path.map fun c => if isSlash special c then '/' else c
  splitAt '/' (if path.head? = some '/' then path.drop 1 else path)

def queryOf (special : Bool) (s : List Char) : Option (List Char) :=
  match s with
  | '?' :: rest =>
    some (percentEncode (if special then escapedInSpecialQuery else escapedInQuery)
      (rest.takeWhile (· != '#')))
  | _ => none

/-- A URL of a scheme that is not `file`, behind the slashes before its host. -/
def parseAuthority (scheme : List Char) (kind : SchemeKind) (s : List Char) :
    Except Fault Url := do
  let special := kind.isSpecial
  let (username, password, s) ← splitUserInfo special s
  let hostText := hostPrefix special false s
  let s := s.drop hostText.length
  if hostText.isEmpty && (special || s.head? = some ':') then .error .emptyHost
  else
    let host ← if special then domainHost hostText else opaqueHost hostText
    let (port, s) ← splitPort kind s
    if hostText.isEmpty then
      .error (if username.isEmpty && password.isEmpty then .noHost else .emptyHost)
    else
      let (path, s) := splitPath s
      let segments :=
        if !special && path.isEmpty then []
        else resolveSegments [] ((segmentsOf special path).map (percentEncode escapedInPath))
      pure { scheme, username, password, host, port, query := queryOf special s, segments }

/-- The host of a `file` URL; a drive letter and `localhost` are none. -/
def fileHost? (hostText : List Char) : Except Fault (Option Host) := do
  if hostText.isEmpty || isDriveLetter hostText then pure none
  else
    let host ← domainHost hostText
    pure (if host = .named "localhost".toList then none else some host)

/-- A URL of the scheme `file`, behind its colon, with the tabs and line ends in it. It
has a host if two slashes follow and no drive letter takes the place of the host. -/
def parseFile (scheme : List Char) (s : List Char) : Except Fault Url := do
  let start := (kept s).take 2
  if !start.all (isSlash true) || start.length < 2 then .error .noHost
  else
    let hostText := ((kept s).drop 2).takeWhile (!endsAuthority true ·)
    match ← fileHost? hostText with
    | none => .error .noHost
    | some host =>
      let (path, s) := splitPath (dropKept (2 + hostText.length) s)
      match resolveFileSegments? [] (segmentsOf true (path.dropWhile isIgnored)) with
      | none => .error .noHost
      | some segments =>
        pure { scheme, host, query := queryOf true (kept s),
               segments := dropEmptyAhead segments }

/-- Read a URL that has a host. -/
def parse (s : List Char) : Except Fault Url :=
  let s := trimmed s
  match splitScheme? (kept s) with
  | none => .error .relative
  | some (scheme, rest) =>
    match SchemeKind.ofScheme scheme with
    | .file => parseFile scheme (dropKept (scheme.length + 1) s)
    | .special port => parseAuthority scheme (.special port) (rest.dropWhile (isSlash true))
    | .other =>
      if rest.take 2 = ['/', '/'] then parseAuthority scheme .other (rest.drop 2)
      else .error .noHost

end EdgeRender.Url
