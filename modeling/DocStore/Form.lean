import DocStore.Entries
import DocStore.Percent

namespace DocStore.Form

def encodeChar (c : Char) : List Char :=
  if c = ' ' then ['+'] else Percent.escapeChar Percent.isUnreserved c

def encodeText (s : String) : List Char :=
  s.toList.flatMap encodeChar

def encodePair (parameter : String × String) : List Char :=
  encodeText parameter.1 ++ '=' :: encodeText parameter.2

def encode (parameters : List (String × String)) : List Char :=
  ['&'].intercalate (parameters.map encodePair)

def decodeText (s : List Char) : String :=
  String.ofList (Utf8.decodeLossy (Percent.bytes (s.map fun c => if c = '+' then ' ' else c)))

-- A part without `=` or with nothing after it says nothing.
def decodePair? (part : List Char) : Option (String × String) :=
  match part.dropWhile (· != '=') with
  | _ :: value@(_ :: _) => some (decodeText (part.takeWhile (· != '=')), decodeText value)
  | _ => none

def decode (query : List Char) : List (String × String) :=
  (query.splitOn '&').filterMap decodePair?

end DocStore.Form
