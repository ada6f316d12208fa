import DocStore.Json.Text
import DocStore.Text.Hex
import DocStore.Text.Printable

namespace DocStore.Text.Quoted

-- A code point without a visible form is shown by its number, in the shortest of three widths.
def numbered (code : Nat) : List Char :=
  if code < 0x100 then '\\' :: 'x' :: Hex.fixed 2 code
  else if code < 0x10000 then '\\' :: 'u' :: Hex.fixed 4 code
  else '\\' :: 'U' :: Hex.fixed 8 code

def escapeChar (quote c : Char) : List Char :=
  if c = quote ∨ c = '\\' then ['\\', c]
  else if c = '\n' then ['\\', 'n']
  else if c = '\r' then ['\\', 'r']
  else if c = '\t' then ['\\', 't']
  else if isPrintable c then [c]
  else numbered c.toNat

def escape (quote : Char) : CodePoint → List Char
  | .char c => escapeChar quote c
  | p => numbered p.code

-- Single quotes, unless the text holds some and no double ones.
def quoteFor (points : List CodePoint) : Char :=
  if points.contains (.char '\'') && !points.contains (.char '"') then '"' else '\''

def encode (points : List CodePoint) : List Char :=
  quoteFor points :: points.flatMap (escape (quoteFor points)) ++ [quoteFor points]

end DocStore.Text.Quoted

namespace DocStore.Text

def quoted (t : JsonText) : String :=
  String.ofList (Quoted.encode t.points)

end DocStore.Text
