import DocStore.Json.Depth
import DocStore.Query.Selection
import DocStore.Service.Document
import DocStore.Service.Fault
import DocStore.Stack

namespace DocStore

namespace Comparison

def admits (c : Comparison) (bound : String) (id : JsonText) : Bool :=
  match c with
  | .equal => id = .plain bound
  | .atLeast => .plain bound ≤ id

-- Whether an id meets the comparison; only texts have an order.
def holds (c : Comparison) (bound : String) (id : Json) : Except Service.Fault Bool :=
  match c, id with
  | c, .text t => .ok (c.admits bound t)
  | .equal, _ => .ok false
  | .atLeast, _ => .error .unfitValue

end Comparison

namespace Selection

def typeText (q : Selection) : String :=
  String.ofList q.type

def idText (q : Selection) : String :=
  String.ofList q.id

-- Whether a document is selected. Its type is looked at first, its id only if the type is right.
def selects (q : Selection) (d : Document) : Except Service.Fault Bool :=
  match d.field? "_type" with
  | none => .error .missingMember
  | some type =>
    if type.string? = some q.typeText then
      match d.field? "_id" with
      | none => .error .missingMember
      | some id => q.comparison.holds q.idText id
    else .ok false

def filter (q : Selection) : List Document → Except Service.Fault (List Document)
  | [] => .ok []
  | d :: rest =>
    match q.selects d with
    | .error fault => .error fault
    | .ok true => (filter q rest).map (d :: ·)
    | .ok false => filter q rest

def idOf (d : Document) : JsonText :=
  match d.field? "_id" with
  | some (.text id) => id
  | _ => .plain ""

-- Documents in the order of their ids; those of one id stay in the order they had.
def sortById (documents : List Document) : List Document :=
  documents.mergeSort fun a b => idOf a ≤ idOf b

def limit? (q : Selection) : Except Service.Fault (Option Nat) :=
  match q.count with
  | none => .ok none
  | some digits =>
    if Text.digitLimit < digits.length then .error (.countTooLong digits.length)
    else .ok (some (Text.decimalValue digits))

-- The names that a projection lists; between two commas there may be none.
def fieldNames (fields : List Char) : List String :=
  (fields.splitOn ',').filter (!·.isEmpty) |>.map String.ofList

-- The listed fields that a document has, in the order of the list.
def project (names : List String) (d : Document) : Document :=
  Entries.ofList (names.filterMap fun name => (d.field? name).map (.text name, ·))

-- Without a projection, and with an empty one, documents are returned whole.
def shape (q : Selection) (d : Document) : Document :=
  match q.fields with
  | some (c :: cs) => project (fieldNames (c :: cs)) d
  | _ => d

-- The documents that a query finds, in order and cut off, before any of their fields are left out.
def found (q : Selection) (documents : Documents) : Except Service.Fault (List Document) := do
  let selected ← q.filter (documents.map Prod.snd)
  let ordered := match q.comparison with
    | .equal => selected
    | .atLeast => sortById selected
  let limit ← q.limit?
  return match limit with
    | some n => ordered.take n
    | none => ordered

-- Copies of rows, unless they are too deep for what is left of the stack.
def copied (stack : Stack) (rows : List Document) : Except Service.Fault (List Document) :=
  if stack.frames < (Json.array (rows.map Document.toJson)).copyFrames then .error .rowsTooDeep
  else .ok rows

def run (stack : Stack) (q : Selection) (documents : Documents) :
    Except Service.Fault (List Document) :=
  (q.found documents).bind fun ds => copied stack (ds.map q.shape)

end Selection

end DocStore
