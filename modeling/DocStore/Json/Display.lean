import DocStore.Json.Depth
import DocStore.Json.Printer
import DocStore.Text.Quoted

namespace DocStore.Json

def displayFloat : Binary64 → String
  | .finite negative significand exponent =>
    String.ofList (Binary64.writeFinite negative significand exponent)
  | .infinite false => "inf"
  | .infinite true => "-inf"
  | .nan => "nan"

mutual

-- The value in a form that tells apart all kinds of values.
def literal : Json → String
  | .null => "None"
  | .bool true => "True"
  | .bool false => "False"
  | .int n => n.repr
  | .float x => displayFloat x
  | .text t => Text.quoted t
  | .array [] => "[]"
  | .array (item :: items) => "[" ++ item.literal ++ literalItems items
  | .object [] => "\x7b\x7d"
  | .object ((name, value) :: members) =>
    "\x7b" ++ Text.quoted name ++ ": " ++ value.literal ++ literalMembers members

def literalItems : List Json → String
  | [] => "]"
  | item :: items => ", " ++ item.literal ++ literalItems items

def literalMembers : List (JsonText × Json) → String
  | [] => "\x7d"
  | (name, value) :: members =>
    ", " ++ Text.quoted name ++ ": " ++ value.literal ++ literalMembers members

end

def kindName : Json → String
  | .null => "NoneType"
  | .bool _ => "bool"
  | .int _ => "int"
  | .float _ => "float"
  | .text _ => "str"
  | .array _ => "list"
  | .object _ => "dict"

def display : Json → JsonText
  | .text t => t
  | v => v.literal

-- Whether a value can be shown: it has no number of too many digits.
def isShowable (v : Json) : Bool :=
  (v.obstacle? v.depth).isNone

end DocStore.Json
