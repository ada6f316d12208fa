import DocStore.Authority
import DocStore.Form
import DocStore.Text.Blank

namespace DocStore

-- The user is what stands before the host, with a password or without; mostly there is none.
structure Url where
  scheme   : List Char
  user     : List Char
  host     : List Char
  port     : Option Nat
  path     : List Char
  query    : List Char
  fragment : List Char
deriving DecidableEq, Repr

-- An address as a request carries it: in its parts, or as it was if it is of a foreign kind.
inductive Address where
  | url (url : Url)
  | foreign (text : String)
deriving DecidableEq, Repr

namespace Url

inductive Fault where
  | malformed (address : String)
  | authority (text : String)
  | host (fault : Host.Fault)
  | noScheme (address : String)
  | noHost (address : String)
  | invalidLabel
  | unknownScheme (address : String)
deriving DecidableEq, Repr

def Fault.message : Fault → String
  | .malformed address => "Failed to parse: " ++ address
  | .authority text => "Failed to parse: " ++ Text.quoted text ++ " is not a valid host or port"
  | .host fault => "Failed to parse: " ++ fault.message
  | .noScheme address =>
    "Invalid URL " ++ Text.quoted address ++ ": No scheme supplied. Perhaps you meant https://" ++
      address ++ "?"
  | .noHost address => "Invalid URL " ++ Text.quoted address ++ ": No host supplied"
  | .invalidLabel => "URL has an invalid label."
  | .unknownScheme address =>
    "No connection adapters were found for " ++ Text.quoted address

def cut (separator : Char) (s : List Char) : List Char × Option (List Char) :=
  (s.takeWhile (· != separator), (s.dropWhile (· != separator)).tail?)

def isSchemeChar (c : Char) : Bool :=
  Percent.isAsciiAlphanumeric c || c = '+' || c = '-'

def splitScheme? (s : List Char) : Option (List Char × List Char) :=
  match s.takeWhile isSchemeChar, s.dropWhile isSchemeChar with
  | first :: more, ':' :: rest =>
    if Percent.isAsciiLetter first then some (first :: more, rest) else none
  | _, _ => none

-- An address that starts with neither a scheme nor a slash starts with its authority.
def rooted (address : List Char) : List Char :=
  if (splitScheme? address).isSome ∨ address.head? = some '/' then address
  else '/' :: '/' :: address

def endsAuthority (c : Char) : Bool :=
  c = '/' || c = '\\' || c = '?' || c = '#'

-- The authority, and what follows; nothing but two slashes introduces it.
def splitAuthority (s : List Char) : List Char × List Char :=
  match s with
  | '/' :: '/' :: rest => (rest.takeWhile (!endsAuthority ·), rest.dropWhile (!endsAuthority ·))
  | _ => ([], s)

def greatestPort : Nat := 65535

-- A port has at most five digits, zeros in front aside.
def port? (digits : List Char) : Option Nat :=
  if digits.all Percent.isAsciiDigit ∧ (digits.dropWhile (· = '0')).length ≤ 5 then
    some (Nat.ofDigitChars 10 digits 0)
  else none

-- The host and the port of an authority without a user. The port zero stands for none.
def splitPort? (s : List Char) : Option (List Char × Nat) :=
  match s with
  | '[' :: rest =>
    match cut ']' rest with
    | (inside, some after) =>
      let port := match after with
        | [] => some 0
        | ':' :: digits => port? digits
        | _ => none
      if Host.isBracketed inside then port.map ('[' :: inside ++ [']'], ·) else none
    | (_, none) => none
  | _ =>
    let (host, digits) := cut ':' s
    if Host.isName host then (port? (digits.getD [])).map (host, ·) else none

-- A host that does not start with a wildcard or an empty label.
def isHost (host : List Char) : Bool :=
  host.head? != some '*' && host.head? != some '.'

-- The parts of an address as they stand in it, but for the scheme in lower case. Its user, host and
-- port are still in one.
structure Parts where
  scheme    : Option (List Char)
  authority : List Char
  path      : List Char
  query     : List Char
  fragment  : List Char

def Parts.ofRest (scheme : Option (List Char)) (s : List Char) : Parts :=
  let (authority, rest) := splitAuthority s
  let (beforeFragment, fragment) := cut '#' rest
  let (path, query) := cut '?' beforeFragment
  { scheme, authority, path, query := query.getD [], fragment := fragment.getD [] }

def Parts.ofChars (s : List Char) : Parts :=
  match splitScheme? s with
  | some (scheme, rest) => .ofRest (some (scheme.map Char.toLower)) rest
  | none => .ofRest none s

-- Leaves out `.` segments, and `..` segments together with the segment before.
def removeDots (kept : List (List Char)) : List (List Char) → List (List Char)
  | [] => kept.reverse
  | segment :: rest =>
    if segment = ['.'] then removeDots kept rest
    else if segment = ['.', '.'] then removeDots kept.tail rest
    else removeDots (segment :: kept) rest

-- The path with its dot segments resolved; it starts with a slash, and ends with one if it did.
def resolvePath (path : List Char) : List Char :=
  let segments := path.splitOn '/'
  let kept := removeDots [] segments
  let rooted := if path.head? = some '/' ∧ kept.head? ≠ some [] then [] :: kept else kept
  let last := segments.getLast?
  let ended :=
    if 1 < segments.length ∧ (last = some ['.'] ∨ last = some ['.', '.']) then rooted ++ [[]]
    else rooted
  ['/'].intercalate ended

def isUserChar (c : Char) : Bool :=
  Percent.isUnreserved c || "!$&'()*+,;=:".toList.contains c

def isPathChar (c : Char) : Bool :=
  isUserChar c || c = '@' || c = '/'

def isQueryChar (c : Char) : Bool :=
  isPathChar c || c = '?'

-- A part with all characters escaped that it may not hold. Its own escapes stay if every `%` of it
-- starts one; otherwise every `%` is escaped.
def escapePart (allowed : Char → Bool) (part : List Char) : List Char :=
  let part := Percent.upperEscapes part
  Percent.escape (fun c => allowed c || (c = '%' && Percent.wellEscaped part)) part

def ensureSlash (path : List Char) : List Char :=
  if path.head? = some '/' then path else '/' :: path

-- Parameters come after the query that the address has.
def joinQuery (query : List Char) (parameters : List (String × String)) : List Char :=
  let form := Form.encode parameters
  if form.isEmpty then query
  else if query.isEmpty then form
  else query ++ '&' :: form

def isWebScheme (scheme : List Char) : Bool :=
  scheme = "https".toList || scheme = "http".toList

def resolveHost (isWeb : Bool) (host : List Char) : Except Fault (List Char) :=
  if isWeb then (Host.normal host).mapError .host else .ok host

def sentHost? (host : List Char) : Option (List Char) :=
  if Label.isAscii host then (if isHost host then some host else none) else Host.encodeName? host

def resolvePart (isWeb : Bool) (allowed : Char → Bool) (part : List Char) : List Char :=
  if isWeb then escapePart allowed part else part

def resolveAuthority (isWeb : Bool) (address authority : List Char) :
    Except Fault (List Char × List Char × Nat) := do
  let (user, rest) := Authority.splitUserInfo authority
  if let some c := rest.find? Host.isControl then throw (.host (.control rest c))
  match splitPort? rest with
  | none => throw (.authority (.ofList rest))
  | some (host, port) =>
    if greatestPort < port then throw (.malformed (.ofList address))
    let host ← resolveHost isWeb host
    let user := user.getD []
    return (resolvePart isWeb isUserChar user, host, port)

-- The address that the parts make once the authority is taken apart.
def Parts.resolve (p : Parts) (isWeb : Bool) (scheme user host : List Char) (port : Nat) : Url where
  scheme   := scheme
  user     := user
  host     := host
  port     := if port = 0 then none else some port
  path     :=
    ensureSlash (resolvePart isWeb isPathChar (if isWeb then resolvePath p.path else p.path))
  query    := resolvePart isWeb isQueryChar p.query
  fragment := resolvePart isWeb isQueryChar p.fragment

-- The address in its normal form, before anything is added to it.
def normal (address : String) : Except Fault Url :=
  let text := rooted address.toList
  let parts := Parts.ofChars text
  let isWeb := parts.scheme.all isWebScheme
  match resolveAuthority isWeb text parts.authority with
  | .error fault => .error fault
  | .ok (user, host, port) =>
    match parts.scheme with
    | none => .error (.noScheme address)
    | some scheme =>
      if host.isEmpty then .error (.noHost address)
      else
        match sentHost? host with
        | none => .error .invalidLabel
        | some host => .ok (parts.resolve isWeb scheme user host port)

def isSafe (c : Char) : Bool :=
  Percent.isUnreserved c || "!#$&'()*+,/:;=?@[]".toList.contains c

-- A part with all characters escaped that no address may hold. Escapes of unreserved characters are
-- undone, unless the address has a broken escape; then no escape counts as one.
def sendPart (isBroken : Bool) (part : List Char) : List Char :=
  if isBroken then Percent.escape isSafe part
  else
    let part := Percent.unescapeUnreserved Percent.anyScriptByte? part
    Percent.escape (fun c => isSafe c || c = '%') part

def sent (u : Url) : Url :=
  let isBroken := [u.user, u.host, u.path, u.query, u.fragment].any Percent.hasBrokenEscape
  { u with
    user     := sendPart isBroken u.user
    host     := sendPart isBroken u.host
    path     := sendPart isBroken u.path
    query    := sendPart isBroken u.query
    fragment := sendPart isBroken u.fragment }

-- Takes an address apart and adds parameters to its query.
def ofText (address : String) (parameters : List (String × String)) : Except Fault Url :=
  (normal address).map fun u => sent { u with query := joinQuery u.query parameters }

def authority (u : Url) : List Char :=
  (if u.user.isEmpty then [] else u.user ++ ['@']) ++ u.host ++
    (match u.port with | some port => ':' :: Nat.toDigits 10 port | none => [])

def chars (u : Url) : List Char :=
  u.scheme ++ "://".toList ++ u.authority ++ u.path ++
    (if u.query.isEmpty then [] else '?' :: u.query) ++
    (if u.fragment.isEmpty then [] else '#' :: u.fragment)

def text (u : Url) : String :=
  String.ofList u.chars

def isSupported (u : Url) : Bool :=
  isWebScheme u.scheme

end Url

namespace Address

-- Whether an address names a scheme of its own that has nothing to do with the web.
def isForeign (address : List Char) : Bool :=
  address.contains ':' && !"http".toList.isPrefixOf (address.map Char.toLower)

-- Blanks before an address do not count.
def ofText (address : String) (parameters : List (String × String)) : Except Url.Fault Address :=
  let address := String.ofList (Text.dropBlank address.toList)
  if isForeign address.toList then .ok (.foreign address)
  else (Url.ofText address parameters).map .url

def text : Address → String
  | .url u => u.text
  | .foreign text => text

def authority : Address → List Char
  | .url u => u.authority
  | .foreign text => Authority.ofAddress text.toList

-- The address if requests can be sent to it, else its text.
def supported? : Address → Except String Url
  | .url u => if u.isSupported then .ok u else .error u.text
  | .foreign text => .error text

end Address

end DocStore
