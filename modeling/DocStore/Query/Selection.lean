import DocStore.Text.Digit

namespace DocStore

inductive Comparison where
  | equal
  | atLeast
deriving DecidableEq, Repr

-- The parts of an understood query. The digits of the count and the list of fields are raw text.
structure Selection where
  type       : List Char
  comparison : Comparison
  id         : List Char
  count      : Option (List Char)
  fields     : Option (List Char)
deriving DecidableEq, Repr

namespace Selection

def expect (fixed : String) (s : List Char) : Option (List Char) :=
  fixed.toList.isPrefixOf? s

-- The characters of a literal up to its closing quote, and what follows. After a backslash any
-- character but a line feed stands for itself.
def readLiteral : List Char → Option (List Char × List Char)
  | [] => none
  | ['\\'] => none
  | '\'' :: rest => some ([], rest)
  | '\\' :: c :: rest =>
    if c = '\n' then none else (readLiteral rest).map fun (cs, rest) => (c :: cs, rest)
  | c :: rest => (readLiteral rest).map fun (cs, rest) => (c :: cs, rest)

def readComparison (s : List Char) : Option (Comparison × List Char) :=
  match s with
  | '=' :: '=' :: rest => some (.equal, rest)
  | '>' :: '=' :: rest => some (.atLeast, rest)
  | _ => none

def readCount (s : List Char) : Option (Option (List Char) × List Char) :=
  match expect " | order(_id) [0..." s with
  | none => some (none, s)
  | some s =>
    match s.takeWhile Text.isDecimalDigit, s.dropWhile Text.isDecimalDigit with
    | digits@(_ :: _), ']' :: rest => some (some digits, rest)
    | _, _ => none

def readFields (s : List Char) : Option (Option (List Char) × List Char) :=
  match s with
  | '\x7b' :: rest =>
    match rest.dropWhile (· != '\x7d') with
    | _ :: after => some (some (rest.takeWhile (· != '\x7d')), after)
    | [] => none
  | _ => some (none, s)

-- One line feed may end a query.
def atEnd (s : List Char) : Bool :=
  s = [] || s = ['\n']

def parse? (s : List Char) : Option Selection := do
  let s ← expect "*[_type == '" s
  let (type, s) ← readLiteral s
  let s ← expect " && _id " s
  let (comparison, s) ← readComparison s
  let s ← expect " '" s
  let (id, s) ← readLiteral s
  let s ← expect "]" s
  let (count, s) ← readCount s
  let (fields, s) ← readFields s
  if atEnd s then some ⟨type, comparison, id, count, fields⟩ else none

end Selection

end DocStore
