import DocStore.Text.Alphanumeric
import DocStore.Text.Digit
import DocStore.Text.Hex
import DocStore.Utf8

namespace DocStore.Percent

def isAsciiLetter (c : Char) : Bool :=
  ('a' ≤ c && c ≤ 'z') || ('A' ≤ c && c ≤ 'Z')

def isAsciiDigit (c : Char) : Bool :=
  '0' ≤ c && c ≤ '9'

def isAsciiAlphanumeric (c : Char) : Bool :=
  isAsciiLetter c || isAsciiDigit c

def isUnreserved (c : Char) : Bool :=
  isAsciiAlphanumeric c || c = '-' || c = '.' || c = '_' || c = '~'

def escapeByte (b : UInt8) : List Char :=
  ['%', Text.Hex.upperDigit (b.toNat / 16), Text.Hex.upperDigit (b.toNat % 16)]

-- A character as it is if `keep` allows it, else the escapes of its bytes.
def escapeChar (keep : Char → Bool) (c : Char) : List Char :=
  if keep c then [c] else (Utf8.encodeChar c).flatMap escapeByte

def escape (keep : Char → Bool) (s : List Char) : List Char :=
  s.flatMap (escapeChar keep)

def byte? (a b : Char) : Option UInt8 := do
  let high ← Text.Hex.value? a
  let low ← Text.Hex.value? b
  return .ofNat (16 * high + low)

-- The bytes of a text with its escapes undone; a `%` that starts no escape stands for itself.
def bytes : List Char → List UInt8
  | [] => []
  | '%' :: a :: b :: rest =>
    match byte? a b with
    | some byte => byte :: bytes rest
    | none      => Utf8.encodeChar '%' ++ bytes (a :: b :: rest)
  | c :: rest => Utf8.encodeChar c ++ bytes rest

-- The first escape of a byte that meets a condition, as it is spelled.
def findEscape? (p : UInt8 → Bool) : List Char → Option (List Char)
  | [] => none
  | '%' :: a :: b :: rest =>
    if (byte? a b).any p then some ['%', a, b] else findEscape? p (a :: b :: rest)
  | _ :: rest => findEscape? p rest

-- Whether every `%` of a text starts an escape.
def wellEscaped : List Char → Bool
  | [] => true
  | '%' :: a :: b :: rest => (byte? a b).isSome && wellEscaped rest
  | '%' :: _ => false
  | _ :: rest => wellEscaped rest

-- The byte that two hexadecimal digits spell if the decimal digits of every script count as digits.
def anyScriptByte? (a b : Char) : Option UInt8 := do
  let high ← Text.Hex.value? a <|> Text.digitValue? a
  let low ← Text.Hex.value? b <|> Text.digitValue? b
  return .ofNat (16 * high + low)

-- Whether some `%` of a text has two letters or digits after it, of any script, that do not spell a
-- byte.
def hasBrokenEscape : List Char → Bool
  | [] => false
  | '%' :: a :: b :: rest =>
    ((anyScriptByte? a b).isNone && Text.isAlphanumeric a && Text.isAlphanumeric b) ||
      hasBrokenEscape (a :: b :: rest)
  | _ :: rest => hasBrokenEscape rest

def upperEscapes : List Char → List Char
  | [] => []
  | '%' :: a :: b :: rest =>
    if (byte? a b).isSome then '%' :: a.toUpper :: b.toUpper :: upperEscapes rest
    else '%' :: upperEscapes (a :: b :: rest)
  | c :: rest => c :: upperEscapes rest

-- Undoes the escapes of unreserved characters and keeps all others; `spelled?` reads the digits.
def unescapeUnreserved (spelled? : Char → Char → Option UInt8) : List Char → List Char
  | [] => []
  | '%' :: a :: b :: rest =>
    match spelled? a b with
    | some byte =>
      let c := Char.ofNat byte.toNat
      if isUnreserved c then c :: unescapeUnreserved spelled? rest
      else '%' :: a :: b :: unescapeUnreserved spelled? rest
    | none => '%' :: unescapeUnreserved spelled? (a :: b :: rest)
  | c :: rest => c :: unescapeUnreserved spelled? rest

end DocStore.Percent
