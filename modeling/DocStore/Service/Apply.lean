import DocStore.Mutation
import DocStore.Service.Document
import DocStore.Service.Fault

namespace DocStore.Service

-- Why a mutation that makes sense is not carried out.
inductive Refusal where
  | alreadyExists (id : Key)
  | notFound (id : Key)
  | unknownKind (kind : JsonText)
deriving DecidableEq, Repr

def Refusal.code : Refusal → Int
  | .alreadyExists _ => 409
  | .notFound _ => 404
  | .unknownKind _ => 400

def Refusal.description : Refusal → JsonText
  | .alreadyExists id => "Document by ID \"" ++ id.display ++ "\" already exists"
  | .notFound id => "Document \"" ++ id.display ++ "\" not found"
  | .unknownKind kind => "Unknown mutation type \"" ++ kind ++ "\""

-- Why a batch ends before its last mutation.
inductive Halt where
  | refused (refusal : Refusal)
  | fault (fault : Fault)
deriving DecidableEq, Repr

-- The documents after an attempt, and how it ended.
abbrev Attempt (α : Type) := Documents × Except Halt α

def halted {α : Type} (documents : Documents) (h : Halt) : Attempt α :=
  (documents, .error h)

def member (payload : Json) (name : String) : Except Fault Json :=
  match payload with
  | .object members =>
    match Entries.get? members name with
    | some v => .ok v
    | none => .error .missingMember
  | _ => .error .unfitValue

def identify (v : Json) : Except Fault Key :=
  match Key.ofJson? v with
  | some id => .ok id
  | none => .error .unfitValue

def memberId (payload : Json) (name : String) : Except Fault Key :=
  match member payload name with
  | .ok v => identify v
  | .error fault => .error fault

-- The entry that an element of a list of pairs gives.
def pairOf (index : Nat) (element : Json) : Except Fault (Key × Json) :=
  let parts : Option (List Json) := match element with
    | .array items => some items
    | .object members => some (members.map fun entry => .text entry.1)
    | .text t => some (t.singles.map .text)
    | _ => none
  match parts with
  | none => .error .unfitValue
  | some [name, value] =>
    match Key.ofJson? name with
    | some key => .ok (key, value)
    | none => .error .unfitValue
  | some parts => .error (.badPair index parts.length)

-- The pairs of a list up to the first element that is none.
def pairsOf (index : Nat) : List Json → List (Key × Json) × Option Fault
  | [] => ([], none)
  | element :: rest =>
    match pairOf index element with
    | .error fault => ([], some fault)
    | .ok pair => let (pairs, fault) := pairsOf (index + 1) rest; (pair :: pairs, fault)

-- The fields that a patch sets, and what is wrong with the rest of them.
def changesOf (changes : Json) : List (Key × Json) × Option Fault :=
  match changes with
  | .object members => (Document.ofMembers members, none)
  | .array elements => pairsOf 0 elements
  | .text t => pairsOf 0 (t.singles.map .text)
  | _ => ([], some .unfitValue)

def create (mode : CreateMode) (payload : Json) (documents : Documents) : Attempt Unit :=
  match memberId payload "_id" with
  | .error fault => halted documents (.fault fault)
  | .ok id =>
    let stored := documents.put id (Document.ofMembers (payload.members?.getD []))
    match mode, documents.has id with
    | .create, true => halted documents (.refused (.alreadyExists id))
    | .createIfNotExists, true => (documents, .ok ())
    | _, _ => (stored, .ok ())

def patch (payload : Json) (documents : Documents) : Attempt Unit :=
  match memberId payload "id" with
  | .error fault => halted documents (.fault fault)
  | .ok id =>
    match documents.get? id with
    | none => halted documents (.refused (.notFound id))
    | some document =>
      let changes := ((payload.members?.getD []).get? "set").getD (.object [])
      let (entries, fault) := changesOf changes
      let documents := documents.put id (Entries.update document entries)
      match fault with
      | none => (documents, .ok ())
      | some fault => halted documents (.fault fault)

-- In an empty dataset nothing is looked for, so any id will do there.
def delete (payload : Json) (documents : Documents) : Attempt Unit :=
  match member payload "id" with
  | .error fault => halted documents (.fault fault)
  | .ok v =>
    if documents.isEmpty then (documents, .ok ())
    else
      match identify v with
      | .error fault => halted documents (.fault fault)
      | .ok id => (documents.erase id, .ok ())

def applyKind (kind : JsonText) (payload : Json) (documents : Documents) : Attempt Unit :=
  match kind.string?.bind MutationKind.ofName? with
  | some (.create mode) => create mode payload documents
  | some .patch => patch payload documents
  | some .delete => delete payload documents
  | none => halted documents (.refused (.unknownKind kind))

def entryOf (kind : JsonText) (payload : Json) : Json :=
  let members := payload.members?.getD []
  let id := match Entries.get? members "_id" with
    | some id => id
    | none => (Entries.get? members "id").getD .null
  .object [("id", id), ("operation", .text kind)]

-- Applies the first member of an item; further members say nothing.
def applyItem (item : Json) (documents : Documents) : Attempt Json :=
  match item with
  | .object ((kind, payload) :: _) =>
    match applyKind kind payload documents with
    | (documents, .ok ()) => (documents, .ok (entryOf kind payload))
    | (documents, .error h) => halted documents h
  | .object [] => halted documents (.fault .emptyMutation)
  | _ => halted documents (.fault .notObject)

def applyItems : List Json → Documents → Attempt (List Json)
  | [], documents => (documents, .ok [])
  | item :: rest, documents =>
    match applyItem item documents with
    | (documents, .error h) => halted documents h
    | (documents, .ok entry) =>
      let (documents, entries) := applyItems rest documents
      (documents, entries.map (entry :: ·))

-- The mutations in a body. A text or an object is run through like a list, and holds none.
def itemsOf (body : Json) : Except Fault (List Json) :=
  match body with
  | .object members =>
    match (Entries.get? members "mutations").getD (.array []) with
    | .array items => .ok items
    | .text t => if t = .plain "" then .ok [] else .error .notObject
    | .object [] => .ok []
    | .object _ => .error .notObject
    | _ => .error .unfitValue
  | _ => .error .notObject

end DocStore.Service
