import EdgeRender.Idna.Name
import EdgeRender.Url.Address
import EdgeRender.Url.Percent

/-! # Hosts

The host of a URL: a name or a numeric address. Names under special schemes are domain
names; under any other scheme a name is opaque and only escaped.
-/
namespace EdgeRender.Url

open EdgeRender.Text EdgeRender.Idna

inductive Fault where
  | relative | noHost | emptyHost | badDomain | badHostChar | badPort | badIpv4 | badIpv6
  deriving DecidableEq, Repr

def Fault.message : Fault → String
  | .relative => "relative URL without a base"
  | .noHost => "URL must be absolute"
  | .emptyHost => "empty host"
  | .badDomain => "invalid international domain name"
  | .badHostChar => "invalid domain character"
  | .badPort => "invalid port number"
  | .badIpv4 => "invalid IPv4 address"
  | .badIpv6 => "invalid IPv6 address"

inductive Host where
  | named (name : List Char)
  | ipv4 (address : Nat)
  | ipv6 (pieces : List Nat)
  deriving DecidableEq, Repr

def Host.text : Host → List Char
  | .named name => name
  | .ipv4 address => ipv4Text address
  | .ipv6 pieces => '[' :: ipv6Text pieces ++ [']']

def isForbiddenInOpaque (c : Char) : Bool :=
  c.val == 0 || c ∈ "\t\n\r #/:<>?@[\\]^|".toList

def bracketed (s : List Char) : Except Fault Host :=
  if s.getLast? = some ']' then
    match ipv6? ((s.drop 1).dropLast) with
    | some pieces => .ok (.ipv6 pieces)
    | none => .error .badIpv6
  else .error .badIpv6

def opaqueHost (s : List Char) : Except Fault Host :=
  if s.head? = some '[' then bracketed s
  else if s.any isForbiddenInOpaque then .error .badHostChar
  else .ok (.named (percentEncode isControl s))

/-- The ASCII form of a domain name that may hold percent signs. -/
def domainOf? (s : List Char) : Option (List Char) :=
  match Utf8.decode (percentDecode s) with
  | .ok name => toAscii? name
  | .error _ => none

def domainHost (s : List Char) : Except Fault Host :=
  if s.head? = some '[' then bracketed s
  else
    match domainOf? s with
    | none => .error .badDomain
    | some name =>
      if name.isEmpty then .error .emptyHost
      else if endsInNumber name then
        match ipv4? name with
        | some address => .ok (.ipv4 address)
        | none => .error .badIpv4
      else .ok (.named name)

end EdgeRender.Url
