import DocStore.Json
import DocStore.Percent
import DocStore.Stack
import DocStore.Text.Hex
import DocStore.Text.Numeral

namespace DocStore.Json

inductive Problem where
  | byteOrderMark
  | value
  | memberName
  | colon
  | comma
  | extraData
  | unterminatedText
  | controlCharacter
  | escape
  | unicodeEscape
deriving DecidableEq, Repr

def Problem.message : Problem → String
  | .byteOrderMark => "Unexpected UTF-8 BOM (decode using utf-8-sig)"
  | .value => "Expecting value"
  | .memberName => "Expecting property name enclosed in double quotes"
  | .colon => "Expecting ':' delimiter"
  | .comma => "Expecting ',' delimiter"
  | .extraData => "Extra data"
  | .unterminatedText => "Unterminated string starting at"
  | .controlCharacter => "Invalid control character at"
  | .escape => "Invalid \\escape"
  | .unicodeEscape => "Invalid \\uXXXX escape"

inductive Container where
  | array
  | object
deriving DecidableEq, Repr

def Container.tooDeepMessage : Container → String
  | .array =>
    "maximum recursion depth exceeded while decoding a JSON array from a unicode string"
  | .object =>
    "maximum recursion depth exceeded while decoding a JSON object from a unicode string"

-- Why reading stopped: a problem and the text left at its place, a number of too many digits, or a
-- container inside too many others.
inductive Stop where
  | problem (problem : Problem) (rest : List Char)
  | tooLong (digits : Nat)
  | tooDeep (container : Container)
deriving DecidableEq, Repr

abbrev Reading (α : Type) := Except Stop (α × List Char)

def isSpace (c : Char) : Bool :=
  c = ' ' || c = '\t' || c = '\n' || c = '\r'

def skipSpace (s : List Char) : List Char :=
  s.dropWhile isSpace

-- The number that the first four characters spell in hexadecimal, if more text follows them.
def unit? : List Char → Option (Nat × List Char)
  | a :: b :: c :: d :: rest =>
    if rest.isEmpty then none else (Text.Hex.number? [a, b, c, d]).map (·, rest)
  | _ => none

def isHighSurrogate (unit : Nat) : Bool :=
  0xD800 ≤ unit && unit < 0xDC00

def isLowSurrogate (unit : Nat) : Bool :=
  0xDC00 ≤ unit && unit < 0xE000

def charOfPair (high low : Nat) : Char :=
  Char.ofNat (0x10000 + (high - 0xD800) * 0x400 + (low - 0xDC00))

-- What the digits after the `u` of an escape stand for; `start` is the text from the `u` on. Two
-- surrogates make one character if they fit together.
def readUnicode (start : List Char) : Reading CodePoint :=
  match unit? (start.drop 1) with
  | none => .error (.problem .unicodeEscape start)
  | some (high, rest) =>
    match rest with
    | '\\' :: 'u' :: second =>
      if isHighSurrogate high ∧ 4 < second.length then
        match unit? second with
        | none => .error (.problem .unicodeEscape ('u' :: second))
        | some (low, rest') =>
          if isLowSurrogate low then .ok (.char (charOfPair high low), rest')
          else .ok (.ofUnit high, rest)
      else .ok (.ofUnit high, rest)
    | _ => .ok (.ofUnit high, rest)

-- The character that a letter after a backslash stands for.
def simpleEscape? : Char → Option Char
  | '"' => some '"'
  | '\\' => some '\\'
  | '/' => some '/'
  | 'b' => some '\x08'
  | 'f' => some '\x0C'
  | 'n' => some '\n'
  | 'r' => some '\r'
  | 't' => some '\t'
  | _ => none

-- The next code point of a text, where `s` does not start with the closing quote.
def readPoint (opening : List Char) (s : List Char) : Reading CodePoint :=
  match s with
  | [] => .error (.problem .unterminatedText opening)
  | ['\\'] => .error (.problem .unterminatedText opening)
  | '\\' :: 'u' :: rest => readUnicode ('u' :: rest)
  | '\\' :: c :: rest =>
    match simpleEscape? c with
    | some c' => .ok (.char c', rest)
    | none => .error (.problem .escape s)
  | c :: rest => if c < ' ' then .error (.problem .controlCharacter s) else .ok (.char c, rest)

-- The code points up to the closing quote. Each takes at least one character of `s`, so the length
-- of `s` is fuel enough; without fuel nothing is left to read.
def readPoints (opening : List Char) : (fuel : Nat) → List Char → Reading (List CodePoint)
  | 0, _ => .error (.problem .unterminatedText opening)
  | fuel + 1, s =>
    match s with
    | '"' :: rest => .ok ([], rest)
    | _ =>
      match readPoint opening s with
      | .error stop => .error stop
      | .ok (p, rest) => (readPoints opening fuel rest).map fun (ps, rest) => (p :: ps, rest)

-- The text whose opening quote is the first character of `s`.
def readText (s : List Char) : Reading JsonText :=
  let inside := s.drop 1
  (readPoints s inside.length inside).map fun (ps, rest) => (.ofPoints ps, rest)

def isDigit (c : Char) : Bool :=
  Percent.isAsciiDigit c

-- The digits before the point: a lone zero, or all digits there are.
def wholePart (s : List Char) : List Char × List Char :=
  match s with
  | '0' :: rest => (['0'], rest)
  | _ => (s.takeWhile isDigit, s.dropWhile isDigit)

-- The digits after a point, none if no fraction starts here.
def fractionPart (s : List Char) : List Char × List Char :=
  match s with
  | '.' :: rest => if (rest.takeWhile isDigit).isEmpty then ([], s)
                   else (rest.takeWhile isDigit, rest.dropWhile isDigit)
  | _ => ([], s)

def signedDigits? (s : List Char) : Option (Int × List Char) :=
  let (negative, digits) := match s with
    | '-' :: rest => (true, rest)
    | '+' :: rest => (false, rest)
    | _ => (false, s)
  let run := digits.takeWhile isDigit
  let size := Nat.ofDigitChars 10 run 0
  if run.isEmpty then none
  else some (if negative then -size else size, digits.dropWhile isDigit)

-- The exponent of a number, if one starts here.
def exponentPart? (s : List Char) : Option (Int × List Char) :=
  match s with
  | 'e' :: rest => signedDigits? rest
  | 'E' :: rest => signedDigits? rest
  | _ => none

def readNumber (negative : Bool) (s : List Char) : Reading Json :=
  let (whole, afterWhole) := wholePart s
  let (fraction, afterFraction) := fractionPart afterWhole
  match exponentPart? afterFraction with
  | some (power, rest) =>
    let digits := Nat.ofDigitChars 10 (whole ++ fraction) 0
    .ok (.float (.ofDecimal negative digits (power - fraction.length)), rest)
  | none =>
    if !fraction.isEmpty then
      let digits := Nat.ofDigitChars 10 (whole ++ fraction) 0
      .ok (.float (.ofDecimal negative digits (-fraction.length)), afterFraction)
    else if Text.digitLimit < whole.length then .error (.tooLong whole.length)
    else
      let size : Int := Nat.ofDigitChars 10 whole 0
      .ok (.int (if negative then -size else size), afterFraction)

def words : List (List Char × Json) :=
  [("null".toList, .null), ("true".toList, .bool true), ("false".toList, .bool false),
   ("NaN".toList, .float .nan), ("Infinity".toList, .float (.infinite false)),
   ("-Infinity".toList, .float (.infinite true))]

def readWord? (s : List Char) : Option (Json × List Char) :=
  words.findSome? fun (word, value) => (word.isPrefixOf? s).map (value, ·)

def readScalar (s : List Char) : Reading Json :=
  match readWord? s with
  | some reading => .ok reading
  | none =>
    match s with
    | '-' :: c :: rest =>
      if isDigit c then readNumber true (c :: rest) else .error (.problem .value s)
    | c :: _ => if isDigit c then readNumber false s else .error (.problem .value s)
    | [] => .error (.problem .value s)

mutual

-- The value that starts here. Fuel of twice the length of `s` is enough; `room` is the number of
-- containers that may still be opened.
def readValue : (fuel room : Nat) → List Char → Reading Json
  | 0, _, s => .error (.problem .value s)
  | fuel + 1, room, s =>
    match s with
    | '"' :: _ => (readText s).map fun (t, rest) => (.text t, rest)
    | '[' :: rest =>
      match room with
      | 0 => .error (.tooDeep .array)
      | room + 1 =>
        match skipSpace rest with
        | ']' :: rest => .ok (.array [], rest)
        | inside => (readItems fuel room inside).map fun (items, rest) => (.array items, rest)
    | '\x7b' :: rest =>
      match room with
      | 0 => .error (.tooDeep .object)
      | room + 1 =>
        match skipSpace rest with
        | '\x7d' :: rest => .ok (.object [], rest)
        | inside =>
          (readMembers fuel room inside).map fun (members, rest) =>
            (.object (Entries.ofList members), rest)
    | _ => readScalar s

-- One item or more, and the closing bracket.
def readItems : (fuel room : Nat) → List Char → Reading (List Json)
  | 0, _, s => .error (.problem .value s)
  | fuel + 1, room, s =>
    match readValue fuel room s with
    | .error stop => .error stop
    | .ok (item, rest) =>
      match skipSpace rest with
      | ']' :: rest => .ok ([item], rest)
      | ',' :: rest =>
        (readItems fuel room (skipSpace rest)).map fun (items, rest) => (item :: items, rest)
      | rest => .error (.problem .comma rest)

-- One member or more, in the order of the text, and the closing brace.
def readMembers : (fuel room : Nat) → List Char → Reading (List (JsonText × Json))
  | 0, _, s => .error (.problem .memberName s)
  | fuel + 1, room, s =>
    match s with
    | '"' :: _ =>
      match readText s with
      | .error stop => .error stop
      | .ok (name, rest) =>
        match skipSpace rest with
        | ':' :: rest =>
          match readValue fuel room (skipSpace rest) with
          | .error stop => .error stop
          | .ok (value, rest) =>
            match skipSpace rest with
            | '\x7d' :: rest => .ok ([(name, value)], rest)
            | ',' :: rest =>
              (readMembers fuel room (skipSpace rest)).map fun (members, rest) =>
                ((name, value) :: members, rest)
            | rest => .error (.problem .comma rest)
        | rest => .error (.problem .colon rest)
    | _ => .error (.problem .memberName s)

end

-- The value of a whole text, in which `room` containers may be open at once.
def readAll (room : Nat) (s : List Char) : Except Stop Json :=
  if s.head? = some '\uFEFF' then .error (.problem .byteOrderMark s)
  else
    match readValue (2 * s.length + 1) room (skipSpace s) with
    | .error stop => .error stop
    | .ok (v, rest) =>
      match skipSpace rest with
      | [] => .ok v
      | rest => .error (.problem .extraData rest)

-- A problem with its place: characters before it in the text, its line, and its column there; the
-- other errors have no place.
inductive Error where
  | malformed (problem : Problem) (offset line column : Nat)
  | tooLong (digits : Nat)
  | tooDeep (container : Container)
deriving DecidableEq, Repr

def tooLongMessage (digits : Nat) : String :=
  "Exceeds the limit (" ++ Text.digitLimit.repr ++ " digits) for integer string conversion: " ++
    "value has " ++ digits.repr ++ " digits; use sys.set_int_max_str_digits() to increase the limit"

def Error.message : Error → String
  | .malformed problem offset line column =>
    problem.message ++ ": line " ++ line.repr ++ " column " ++ column.repr ++
      " (char " ++ offset.repr ++ ")"
  | .tooLong digits => tooLongMessage digits
  | .tooDeep container => container.tooDeepMessage

def columnAfter (before : List Char) : Nat :=
  (before.reverse.takeWhile (· != '\n')).length + 1

def Error.ofStop (s : List Char) : Stop → Error
  | .tooLong digits => .tooLong digits
  | .tooDeep container => .tooDeep container
  | .problem problem rest =>
    let before := s.take (s.length - rest.length)
    .malformed problem before.length (before.count '\n' + 1) (columnAfter before)

-- The value that a text spells, or what is wrong with the text and where.
def read (stack : Stack) (s : String) : Except Error Json :=
  (readAll stack.room s.toList).mapError (Error.ofStop s.toList)

end DocStore.Json
