import DocStore.Entries
import DocStore.Json.Display
import DocStore.Utf8

namespace DocStore

-- What creating a document does when the id is taken.
inductive CreateMode where
  | create
  | createOrReplace
  | createIfNotExists
deriving DecidableEq, Repr, Inhabited

inductive MutationKind where
  | create (mode : CreateMode)
  | patch
  | delete
deriving DecidableEq, Repr

namespace MutationKind

def all : List MutationKind :=
  [.create .create, .create .createOrReplace, .create .createIfNotExists, .patch, .delete]

def name : MutationKind → String
  | .create .create => "create"
  | .create .createOrReplace => "createOrReplace"
  | .create .createIfNotExists => "createIfNotExists"
  | .patch => "patch"
  | .delete => "delete"

-- The name of the kind where kinds are listed.
def label : MutationKind → String
  | .create .create => "CREATE"
  | .create .createOrReplace => "CREATE_OR_REPLACE"
  | .create .createIfNotExists => "CREATE_IF_NOT_EXISTS"
  | .patch => "PATCH"
  | .delete => "DELETE"

def carriesDocument : MutationKind → Bool
  | .create _ => true
  | _ => false

def ofName? : String → Option MutationKind :=
  named? name all

@[simp] theorem ofName?_name (kind : MutationKind) : ofName? kind.name = some kind := by
  rcases kind with (_ | _ | _) | _ | _ <;> decide

def unknownMessage (value : Json) : String :=
  value.literal ++ " is not a valid MutationType"

def ofJson (value : Json) : Except String MutationKind :=
  match value.string?.bind ofName? with
  | some kind => .ok kind
  | none => .error (unknownMessage value)

end MutationKind

-- A field value as the caller gives it.
inductive FieldInput where
  | text (value : JsonText)
  | bytes (value : List UInt8)
  | other (value : Json) (showable : value.isShowable = true := by rfl)

-- The text a value is stored as: bytes are read as UTF-8, anything else is shown.
def FieldInput.toText : FieldInput → Except Utf8.Error JsonText
  | .text t => .ok t
  | .bytes b => (Utf8.decode b).map fun cs => String.ofList cs
  | .other v _ => .ok v.display

structure Mutation where
  kind   : MutationKind
  type   : JsonText
  id     : JsonText
  values : List (JsonText × FieldInput)

namespace Mutation

def named (values : List (String × FieldInput)) : List (JsonText × FieldInput) :=
  values.map fun (name, value) => (.plain name, value)

def fields : List (JsonText × FieldInput) → Except Utf8.Error (List (JsonText × Json))
  | [] => .ok []
  | (name, value) :: rest =>
    match value.toText with
    | .error e => .error e
    | .ok t => (fields rest).map ((name, .text t) :: ·)

-- The payload of each kind; a field may take the place of the id and the type of a document.
def payloadOf (kind : MutationKind) (type id : JsonText) (fields : Entries JsonText Json) :
    Entries JsonText Json :=
  match kind with
  | .create _ => Entries.update [("_id", .text id), ("_type", .text type)] fields
  | .patch => [("id", .text id), ("set", .object fields)]
  | .delete => [("id", .text id)]

-- The values are read for every kind, also for one that drops them.
def payload (m : Mutation) : Except Utf8.Error (Entries JsonText Json) :=
  (fields m.values).map fun fields => payloadOf m.kind m.type m.id (Entries.ofList fields)

def envelope (kind : MutationKind) (payload : Entries JsonText Json) : Json :=
  .object [("mutations", .array [.object [(kind.name, .object payload)]])]

def body (m : Mutation) : Except Utf8.Error String :=
  m.payload.map fun payload => (envelope m.kind payload).compact

end Mutation

end DocStore
