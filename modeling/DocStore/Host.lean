import DocStore.Label
import DocStore.Label.Mapping
import DocStore.Percent
import DocStore.Text.Quoted

namespace DocStore.Host

def isShortNumber (s : List Char) : Bool :=
  !s.isEmpty && s.length ≤ 3 && s.all Percent.isAsciiDigit

-- A number below 256, without zeros in front.
def isOctet (s : List Char) : Bool :=
  isShortNumber s && Nat.ofDigitChars 10 s 0 < 256 && (s.length == 1 || s.head? != some '0')

def isDotted (isNumber : List Char → Bool) (s : List Char) : Bool :=
  let parts := s.splitOn '.'
  parts.length == 4 && parts.all isNumber

def isHextet (s : List Char) : Bool :=
  !s.isEmpty && s.length ≤ 4 && s.all fun c => (Text.Hex.value? c).isSome

-- The number of hextets that the parts of an address stand for; the last part may be dotted, and
-- stands for two then.
def hextetCount? (isNumber : List Char → Bool) : List (List Char) → Option Nat
  | [] => some 0
  | [last] => if isHextet last then some 1 else if isDotted isNumber last then some 2 else none
  | part :: rest => if isHextet part then (hextetCount? isNumber rest).map (· + 1) else none

def colonParts (s : List Char) : List (List Char) :=
  if s.isEmpty then [] else s.splitOn ':'

-- The text before the first two colons in a row, and the text after them.
def cutGap? : List Char → Option (List Char × List Char)
  | ':' :: ':' :: rest => some ([], rest)
  | c :: rest => (cutGap? rest).map fun (before, after) => (c :: before, after)
  | [] => none

-- Eight hextets; two colons in a row stand for at least one.
def isHextets (isNumber : List Char → Bool) (s : List Char) : Bool :=
  match cutGap? s with
  | none => hextetCount? isNumber (colonParts s) == some 8
  | some (before, after) =>
    match hextetCount? (fun _ => false) (colonParts before),
      hextetCount? isNumber (colonParts after) with
    | some m, some n => m + n ≤ 7
    | _, _ => false

-- The address between brackets, and the zone after it if there is one.
def cutZone (s : List Char) : List Char × Option (List Char) :=
  (s.takeWhile (· != '%'), (s.dropWhile (· != '%')).tail?)

def isZone (zone : List Char) : Bool :=
  !zone.isEmpty && Percent.wellEscaped zone && zone.all fun c => Percent.isUnreserved c || c == '%'

-- What may stand between the brackets of a host.
def isBracketed (s : List Char) : Bool :=
  isHextets isShortNumber (cutZone s).1 && (cutZone s).2.all isZone

-- A zone may be introduced by an escaped percent sign.
def normalZone : List Char → List Char
  | '2' :: '5' :: c :: rest => Percent.upperEscapes (c :: rest)
  | zone => Percent.upperEscapes zone

def normalBracketed (s : List Char) : List Char :=
  let (address, zone) := cutZone s
  address.map Char.toLower ++ (match zone with | some zone => '%' :: normalZone zone | none => [])

def isNameChar (c : Char) : Bool :=
  !(c == '[' || c == ']' || c == ':')

def isName (s : List Char) : Bool :=
  s.all isNameChar && Percent.wellEscaped s

def isControl (c : Char) : Bool :=
  c.toNat ≤ 0x20 || c.toNat == 0x7F

-- The bytes that no escape of a host stands for; the space is not among them.
def isControlByte (b : UInt8) : Bool :=
  b < 0x20 || b == 0x7F

inductive Fault where
  | control (text : List Char) (c : Char)
  | escapedControl (host escape : List Char)
  | label (name : List Char)
deriving DecidableEq, Repr

def Fault.message : Fault → String
  | .control text c =>
    "Host " ++ Text.quoted (String.ofList text) ++ " contains invalid character " ++
      Text.quoted (String.ofList [c])
  | .escapedControl host escape =>
    "Host " ++ Text.quoted (String.ofList host) ++
      " contains invalid percent-encoded control character " ++ Text.quoted (String.ofList escape)
  | .label name => "Name '" ++ String.ofList name ++ "' is not a valid IDNA label"

-- A decimal number, or a hexadecimal one with its mark.
def isNumber : List Char → Bool
  | '0' :: 'x' :: c :: rest => (c :: rest).all fun c => (Text.Hex.value? c).isSome
  | '0' :: 'X' :: c :: rest => (c :: rest).all fun c => (Text.Hex.value? c).isSome
  | s => !s.isEmpty && s.all Percent.isAsciiDigit

-- An address of one number to four. It has no other form than the one it is in.
def isNumeric (host : List Char) : Bool :=
  let numbers := host.splitOn '.'
  numbers.length ≤ 4 && numbers.all isNumber

def normalLabels : List (List Char) → Except Fault (List (List Char))
  | [] => .ok []
  | label :: labels =>
    match Label.encode? label with
    | none => .error (.label label)
    | some encoded => (normalLabels labels).map (encoded :: ·)

-- A name in lower case, its labels in the form on the wire. Escapes that mean what they stand for
-- are undone, and the others have their digits in upper case.
def normalName (name : List Char) : Except Fault (List Char) :=
  match Percent.findEscape? isControlByte name with
  | some escape => .error (.escapedControl name escape)
  | none =>
    if isNumeric name then .ok name
    else
      let name := Percent.upperEscapes (Percent.unescapeUnreserved Percent.byte? name)
      (normalLabels (name.splitOn '.')).map fun labels =>
        Percent.upperEscapes (['.'].intercalate labels)

def normal (host : List Char) : Except Fault (List Char) :=
  match host with
  | '[' :: rest => .ok ('[' :: normalBracketed rest.dropLast ++ [']'])
  | name => normalName name

def greatestLength : Nat := 253

-- A name that is longer than this is not looked at, whatever it stands for.
def greatestGivenLength : Nat := 1024

-- The form on the wire of a name with labels of any script, all of which have to be valid. It may
-- end with a dot.
def encodeName? (name : List Char) : Option (List Char) := do
  let labels := (Label.mapped name).splitOn '.'
  let isRooted := 1 < labels.length ∧ labels.getLast? = some []
  let encoded ← (if isRooted then labels.dropLast else labels).mapM Label.encodeLower?
  let encodedName := ['.'].intercalate (if isRooted then encoded ++ [[]] else encoded)
  let limit := if isRooted then greatestLength + 1 else greatestLength
  if name.length ≤ greatestGivenLength ∧ encodedName.length ≤ limit then some encodedName else none

end DocStore.Host
