import DocStore.Credentials
import DocStore.Host

namespace DocStore.Authority

-- Why an address with an authority cannot be used.
inductive Fault where
  | misplacedBracket
  | noNumericAddress (text : List Char)
  | dottedInBrackets
  | badFutureAddress
  | ambiguous (authority : List Char)
deriving DecidableEq, Repr

def Fault.message : Fault → String
  | .misplacedBracket => "Invalid IPv6 URL"
  | .noNumericAddress text =>
    Text.quoted (String.ofList text) ++ " does not appear to be an IPv4 or IPv6 address"
  | .dottedInBrackets => "An IPv4 address cannot be in brackets"
  | .badFutureAddress => "IPvFuture address is invalid"
  | .ambiguous authority =>
    "netloc '" ++ String.ofList authority ++
      "' contains invalid characters under NFKC normalization"

def isSchemeChar (c : Char) : Bool :=
  Percent.isAsciiLetter c || Percent.isAsciiDigit c || c == '+' || c == '-' || c == '.'

def dropScheme (address : List Char) : List Char :=
  match address.takeWhile (· != ':'), address.dropWhile (· != ':') with
  | first :: more, _ :: rest =>
    if Percent.isAsciiLetter first && (first :: more).all isSchemeChar then rest else address
  | _, _ => address

def isEnd (c : Char) : Bool :=
  c == '/' || c == '?' || c == '#'

def isLayout (c : Char) : Bool :=
  c == '\t' || c == '\r' || c == '\n'

-- The authority of an address of any kind; two slashes introduce it.
def ofAddress (address : List Char) : List Char :=
  match dropScheme ((address.dropWhile (·.toNat ≤ 0x20)).filter (!isLayout ·)) with
  | '/' :: '/' :: rest => rest.takeWhile (!isEnd ·)
  | _ => []

-- The text before the last `@` if there is one, and the text after it.
def splitUserInfo (authority : List Char) : Option (List Char) × List Char :=
  let host := (authority.reverse.takeWhile (· != '@')).reverse
  match authority.reverse.dropWhile (· != '@') with
  | [] => (none, host)
  | _ :: info => (some info.reverse, host)

def credentials? (authority : List Char) : Option Credentials :=
  (splitUserInfo authority).1.bind Credentials.ofUserInfo?

-- Characters that stand for others, among them one that ends an authority or divides it.
def isAmbiguous (c : Char) : Bool :=
  [0x2047, 0x2048, 0x2049, 0x2100, 0x2101, 0x2105, 0x2106, 0x2A74, 0xFE13, 0xFE16, 0xFE55, 0xFE56,
   0xFE5F, 0xFE6B, 0xFF03, 0xFF0F, 0xFF1A, 0xFF1F, 0xFF20].contains c.toNat

-- An address of a kind to come has the digits of its version and a dot in front.
def isFuture (s : List Char) : Bool :=
  let isHex := fun c => (Text.Hex.value? c).isSome
  match s.takeWhile isHex, s.dropWhile isHex with
  | _ :: _, '.' :: _ :: _ => true
  | _, _ => false

def bracketFault? (inside : List Char) : Option Fault :=
  match inside with
  | 'v' :: rest => if isFuture rest then none else some .badFutureAddress
  | _ =>
    let (address, zone) := Host.cutZone inside
    if Host.isDotted Host.isOctet inside then some .dottedInBrackets
    else if Host.isHextets Host.isOctet address ∧
        zone.all fun zone => !zone.isEmpty && !zone.contains '%' then none
    else some (.noNumericAddress inside)

-- The host of an authority with brackets in it. Nothing stands before the brackets of a host, and
-- nothing but a port after them.
def bracketedHost? (authority : List Char) : Option (List Char) :=
  match (splitUserInfo authority).2 with
  | '[' :: rest =>
    match (rest.dropWhile (· != ']')).drop 1 with
    | [] => some (rest.takeWhile (· != ']'))
    | ':' :: _ => some (rest.takeWhile (· != ']'))
    | _ => none
  | host => if host.contains '[' then none else some (host.takeWhile (· != ':'))

-- Brackets come in pairs, and if there are any, the host is a numeric address.
def fault? (authority : List Char) : Option Fault :=
  let opens := authority.contains '['
  let fault :=
    if opens != authority.contains ']' then some .misplacedBracket
    else if opens then
      match bracketedHost? authority with
      | some host => bracketFault? host
      | none => some .misplacedBracket
    else none
  match fault with
  | some fault => some fault
  | none => if authority.any isAmbiguous then some (.ambiguous authority) else none

end DocStore.Authority
