import DocStore.Binary64.Shortest
import DocStore.Json
import DocStore.Stack
import DocStore.Text.Hex
import DocStore.Text.Numeral

namespace DocStore.Json

structure Separators where
  item   : List Char
  member : List Char

def Separators.spaced : Separators := ⟨[',', ' '], [':', ' ']⟩

def Separators.compact : Separators := ⟨[','], [':']⟩

def escapeUnit (unit : Nat) : List Char :=
  '\\' :: 'u' :: Text.Hex.fixed 4 unit

-- A character beyond ASCII is one unit of 16 bits, or a pair of them past the first 65536.
def escapeCodePoint (c : Char) : List Char :=
  let code := c.toNat
  if code < 0x10000 then escapeUnit code
  else
    escapeUnit (0xD800 + (code - 0x10000) / 0x400) ++ escapeUnit (0xDC00 + (code - 0x10000) % 0x400)

def escapeChar (c : Char) : List Char :=
  if c = '"' ∨ c = '\\' then ['\\', c]
  else if c = '\n' then ['\\', 'n']
  else if c = '\r' then ['\\', 'r']
  else if c = '\t' then ['\\', 't']
  else if c = '\x0C' then ['\\', 'f']
  else if c = '\x08' then ['\\', 'b']
  else if ' ' ≤ c ∧ c ≤ '~' then [c]
  else escapeCodePoint c

def escapePoint : CodePoint → List Char
  | .char c => escapeChar c
  | p => escapeUnit p.code

def printText (t : JsonText) : List Char :=
  '"' :: t.points.flatMap escapePoint ++ ['"']

@[simp] theorem printText_plain (s : String) :
    printText (.plain s) = '"' :: s.toList.flatMap escapeChar ++ ['"'] := by
  simp [printText, JsonText.points, List.flatMap_map, escapePoint]

def printFloat : Binary64 → List Char
  | .finite negative significand exponent => Binary64.writeFinite negative significand exponent
  | .infinite false => "Infinity".toList
  | .infinite true => "-Infinity".toList
  | .nan => "NaN".toList

mutual

def print (sep : Separators) : Json → List Char
  | .null => "null".toList
  | .bool true => "true".toList
  | .bool false => "false".toList
  | .int n => n.repr.toList
  | .float x => printFloat x
  | .text t => printText t
  | .array [] => ['[', ']']
  | .array (item :: items) => '[' :: print sep item ++ printItems sep items
  | .object [] => ['\x7b', '\x7d']
  | .object ((name, value) :: members) =>
    '\x7b' :: printText name ++ sep.member ++ print sep value ++ printMembers sep members

def printItems (sep : Separators) : List Json → List Char
  | [] => [']']
  | item :: items => sep.item ++ print sep item ++ printItems sep items

def printMembers (sep : Separators) : List (JsonText × Json) → List Char
  | [] => ['\x7d']
  | (name, value) :: members =>
    sep.item ++ printText name ++ sep.member ++ print sep value ++ printMembers sep members

end

-- The text of a value as the service and its queued answers spell it.
def spaced (v : Json) : String :=
  String.ofList (v.print .spaced)

-- The text of a value as request bodies spell it.
def compact (v : Json) : String :=
  String.ofList (v.print .compact)

-- What keeps a value from being written.
inductive Obstacle where
  | overlong
  | tooDeep
deriving DecidableEq, Repr

def Obstacle.message : Obstacle → String
  | .overlong => Text.overlongMessage
  | .tooDeep => "maximum recursion depth exceeded while encoding a JSON object"

mutual

-- The first obstacle in a value; `room` is the number of containers that may still be opened.
def obstacle? : (room : Nat) → Json → Option Obstacle
  | _, .int n => if Text.isOverlong n then some .overlong else none
  | 0, .array _ => some .tooDeep
  | 0, .object _ => some .tooDeep
  | room + 1, .array items => itemsObstacle? room items
  | room + 1, .object members => membersObstacle? room members
  | _, _ => none

def itemsObstacle? : (room : Nat) → List Json → Option Obstacle
  | _, [] => none
  | room, item :: items => (obstacle? room item).or (itemsObstacle? room items)

def membersObstacle? : (room : Nat) → List (JsonText × Json) → Option Obstacle
  | _, [] => none
  | room, (_, value) :: members => (obstacle? room value).or (membersObstacle? room members)

end

-- The text of a value, if it can be written with what is left of the stack.
def write (stack : Stack) (sep : Separators) (v : Json) : Except Obstacle String :=
  match v.obstacle? stack.room with
  | some obstacle => .error obstacle
  | none => .ok (String.ofList (v.print sep))

end DocStore.Json
