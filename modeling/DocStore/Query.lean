import DocStore.Text.Numeral

namespace DocStore

structure Condition where
  field    : String
  operator : String
  value    : String
deriving DecidableEq, Repr

-- A number of documents. The truth values count as one and zero, but are written as words.
inductive Count where
  | number (value : Int)
  | truth (value : Bool)
deriving DecidableEq, Repr

namespace Count

def value : Count → Int
  | .number n => n
  | .truth b => if b then 1 else 0

def chars : Count → List Char
  | .number n => n.repr.toList
  | .truth true => "True".toList
  | .truth false => "False".toList

end Count

-- Why a query has no limit, or no text: its count is negative, or too long to be written.
inductive CountFault where
  | negative (count : Int)
  | overlong
deriving DecidableEq, Repr

def CountFault.message : CountFault → String
  | .negative count => "Slice count must be non-negative, got " ++ count.repr
  | .overlong => Text.overlongMessage

-- How a negative count is told of, unless it is too long for that.
def CountFault.ofNegative (count : Int) : CountFault :=
  if Text.isOverlong count then .overlong else .negative count

structure Query where
  conditions : List Condition
  ordering   : List String  := []
  limit      : Option Count := none
  fields     : List String  := []
deriving DecidableEq, Repr

namespace Query

inductive Clause where
  | filter (condition : Condition)
  | orderBy (names : List String)
  | limit (count : Count)
  | select (fields : List String)
deriving DecidableEq, Repr

def ofType (type : String) : Query where
  conditions := [⟨"_type", "==", type⟩]

def filter (q : Query) (condition : Condition) : Query :=
  { q with conditions := q.conditions ++ [condition] }

def orderBy (q : Query) (names : List String) : Query :=
  { q with ordering := q.ordering ++ names }

def select (q : Query) (fields : List String) : Query :=
  { q with fields := q.fields ++ fields }

-- The last count given is the one that holds.
def limitTo (q : Query) (count : Count) : Except CountFault Query :=
  if count.value < 0 then .error (.ofNegative count.value) else .ok { q with limit := some count }

def add (q : Query) : Clause → Except CountFault Query
  | .filter condition => .ok (q.filter condition)
  | .orderBy names => .ok (q.orderBy names)
  | .limit count => q.limitTo count
  | .select fields => .ok (q.select fields)

def escapeChar (c : Char) : List Char :=
  if c = '\\' ∨ c = '\'' then ['\\', c] else [c]

def literalChars (s : List Char) : List Char :=
  '\'' :: s.flatMap escapeChar ++ ['\'']

def literal (s : String) : String :=
  String.ofList (literalChars s.toList)

def separated (separator : String) (parts : List (List Char)) : List Char :=
  separator.toList.intercalate parts

def conditionText (c : Condition) : List Char :=
  c.field.toList ++ ' ' :: c.operator.toList ++ ' ' :: literalChars c.value.toList

def filterText (conditions : List Condition) : List Char :=
  "*[".toList ++ separated " && " (conditions.map conditionText) ++ [']']

def orderText (names : List String) : List Char :=
  if names.isEmpty then []
  else " | order(".toList ++ separated ", " (names.map String.toList) ++ [')']

-- The bound of the written range is exclusive, so it is the number of documents.
def limitText : Option Count → List Char
  | none => []
  | some count => " [0...".toList ++ count.chars ++ [']']

def projectionText (fields : List String) : List Char :=
  if fields.isEmpty then []
  else '\x7b' :: separated "," (fields.map String.toList) ++ ['\x7d']

def chars (q : Query) : List Char :=
  filterText q.conditions ++ orderText q.ordering ++ limitText q.limit ++ projectionText q.fields

def text (q : Query) : String :=
  String.ofList q.chars

-- The text of a query, unless its count is too long to be written.
def build (q : Query) : Except CountFault String :=
  match q.limit with
  | some (.number n) => if Text.isOverlong n then .error .overlong else .ok q.text
  | _ => .ok q.text

def lookup (type id : String) (fields : List String) : Query :=
  ((ofType type).filter ⟨"_id", "==", id⟩).select fields

-- Up to `count` documents of a type in order of their ids, from an id on.
def range (type start : String) (count : Int) (fields : List String) :
    Except CountFault Query :=
  let sorted := ((ofType type).filter ⟨"_id", ">=", start⟩).orderBy ["_id"]
  (sorted.limitTo (.number count)).map (·.select fields)

end Query

end DocStore
