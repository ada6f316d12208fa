import DocStore.Entries
import DocStore.Json
import DocStore.Mutation
import DocStore.Text.Quoted

namespace DocStore

inductive Visibility where
  | sync
  | async
  | deferred
deriving DecidableEq, Repr, Inhabited

namespace Visibility

def all : List Visibility :=
  [.sync, .async, .deferred]

def name : Visibility → String
  | .sync => "sync"
  | .async => "async"
  | .deferred => "deferred"

def ofName? : String → Option Visibility :=
  named? name all

@[simp] theorem ofName?_name (visibility : Visibility) :
    ofName? visibility.name = some visibility := by
  cases visibility <;> decide

end Visibility

structure Settings where
  project    : String     := ""
  dataset    : String     := ""
  protocol   : String     := "https://"
  host       : String     := "api.sanity.io"
  version    : String     := "vX"
  token      : String     := ""
  readType   : String     := "guery"
  visibility : Visibility := .sync
  insertMode : CreateMode := .create
deriving DecidableEq, Repr, Inhabited

namespace Settings

-- The known properties, in the order of reports.
inductive Property where
  | project
  | dataset
  | protocol
  | host
  | version
  | token
  | readType
  | visibility
  | insertMode
deriving DecidableEq, Repr

namespace Property

def all : List Property :=
  [.project, .dataset, .protocol, .host, .version, .token, .readType, .visibility, .insertMode]

def key : Property → String
  | .project => "sanity.project"
  | .dataset => "sanity.dataset"
  | .protocol => "sanity.api.protocol"
  | .host => "sanity.api.host"
  | .version => "sanity.api.version"
  | .token => "sanity.api.auth_token"
  | .readType => "sanity.query.read"
  | .visibility => "sanity.mutation.visibility"
  | .insertMode => "sanity.mutation.insert"

def field : Property → String
  | .project => "project"
  | .dataset => "dataset"
  | .protocol => "api_protocol"
  | .host => "api_host"
  | .version => "api_version"
  | .token => "api_auth_token"
  | .readType => "read_type"
  | .visibility => "mutation_visibility"
  | .insertMode => "insert_mutation"

end Property

inductive Problem where
  | notText
  -- A text with surrogates.
  | notUnicode
  | tooShort
  | notVisibility
  | notMutation
  | notCreating (kind : MutationKind)
deriving DecidableEq, Repr

structure Detail where
  field   : String
  kind    : String
  message : String
deriving DecidableEq, Repr

def Problem.kind : Problem → String
  | .notText => "string_type"
  | .notUnicode => "string_unicode"
  | .tooShort => "string_too_short"
  | .notVisibility => "literal_error"
  | .notMutation => "enum"
  | .notCreating _ => "value_error"

def Problem.message : Problem → String
  | .notText => "Input should be a valid string"
  | .notUnicode => "Input should be a valid string, unable to parse raw data as a unicode string"
  | .tooShort => "String should have at least 1 character"
  | .notVisibility => "Input should be 'sync', 'async' or 'deferred'"
  | .notMutation =>
    "Input should be 'create', 'createOrReplace', 'createIfNotExists', 'patch' or 'delete'"
  | .notCreating kind =>
    "Value error, insert mutation must be one of " ++
      "['create', 'createIfNotExists', 'createOrReplace'], got '" ++ kind.name ++ "'"

structure Issue where
  property : Property
  problem  : Problem
deriving DecidableEq, Repr

def Issue.detail (i : Issue) : Detail :=
  ⟨i.property.field, i.problem.kind, i.problem.message⟩

def reportTitle (issues : List Issue) : String :=
  "Invalid Sanity configuration: " ++ issues.length.repr ++ " validation error" ++
    (if issues.length = 1 then "" else "s") ++ " for SanityConfig"

def checkText (v : Json) : Option Problem :=
  match v with
  | .text _ => none
  | _ => some .notText

-- Where the length matters, the text has to be one that has a length in characters.
def checkNonempty (v : Json) : Option Problem :=
  match v with
  | .text (.plain s) => if s = "" then some .tooShort else none
  | .text (.broken _ _) => some .notUnicode
  | _ => some .notText

def checkVisibility (v : Json) : Option Problem :=
  match v.string?.bind Visibility.ofName? with
  | some _ => none
  | none => some .notVisibility

def checkInsertMode (v : Json) : Option Problem :=
  match v.string?.bind MutationKind.ofName? with
  | some (.create _) => none
  | some kind => some (.notCreating kind)
  | none => some .notMutation

def Property.check : Property → Json → Option Problem
  | .host => checkNonempty
  | .version => checkNonempty
  | .visibility => checkVisibility
  | .insertMode => checkInsertMode
  | _ => checkText

def issueOf (properties : Entries String Json) (p : Property) : Option Issue :=
  ((properties.get? p.key).bind p.check).map (⟨p, ·⟩)

-- The bad properties, in the order of the known ones.
def issues (properties : Entries String Json) : List Issue :=
  Property.all.filterMap (issueOf properties)

def textOf? (properties : Entries String Json) (p : Property) : Option String :=
  (properties.get? p.key).bind Json.string?

-- What can be shown of the text of a property, or its default where it is missing.
def textOf (properties : Entries String Json) (p : Property) (default : String) : String :=
  match properties.get? p.key with
  | some (.text t) => t.shown
  | _ => default

def visibilityOf (properties : Entries String Json) : Visibility :=
  ((textOf? properties .visibility).bind Visibility.ofName?).getD .sync

def insertModeOf (properties : Entries String Json) : CreateMode :=
  match (textOf? properties .insertMode).bind MutationKind.ofName? with
  | some (.create mode) => mode
  | _ => .create

def assemble (properties : Entries String Json) : Settings :=
  let default : Settings := {}
  { project    := textOf properties .project default.project
    dataset    := textOf properties .dataset default.dataset
    protocol   := textOf properties .protocol default.protocol
    host       := textOf properties .host default.host
    version    := textOf properties .version default.version
    token      := textOf properties .token default.token
    readType   := textOf properties .readType default.readType
    visibility := visibilityOf properties
    insertMode := insertModeOf properties }

def ofProperties (properties : Entries String Json) : Except (List Issue) Settings :=
  match issues properties with
  | [] => .ok (assemble properties)
  | bad => .error bad

-- Why an attribute of settings cannot be assigned.
inductive AssignmentFault where
  | frozen (field : String)
  -- The name is no text, or the value does not fit the name.
  | unfit
deriving DecidableEq, Repr

-- Whether a hidden attribute can hold a value. Two of them hold no plain values: one holds none of
-- JSON at all, and the other only objects.
def hiddenAccepts (name : String) (value : Json) : Bool :=
  if name = "__class__" then false
  else if name = "__dict__" then value.members?.isSome
  else true

-- What is wrong with assigning to an attribute. Settings do not change, whatever their names are;
-- but a name that starts with an underscore is hidden, and is none of a setting.
def assignmentFault? (name value : Json) : Option AssignmentFault :=
  match name.string? with
  | none => some .unfit
  | some name =>
    if name.toList.head? = some '_' then
      if hiddenAccepts name value then none else some .unfit
    else some (.frozen name)

def frozenDetail (field : String) : Detail :=
  ⟨field, "frozen_instance", "Instance is frozen"⟩

-- A project is the first label of the host.
def origin (s : Settings) : String :=
  s.protocol ++ (if s.project = "" then "" else s.project ++ ".") ++ s.host

def queryAddress (s : Settings) : String :=
  s.origin ++ "/" ++ s.version ++ "/query/" ++ s.dataset

def mutateAddress (s : Settings) : String :=
  s.origin ++ "/" ++ s.version ++ "/mutate/" ++ s.dataset

def headers (s : Settings) : List (String × String) :=
  [("Content-Type", "application/json"), ("Authorization", "Bearer " ++ s.token)]

def insertKind (s : Settings) : MutationKind :=
  .create s.insertMode

-- All settings but the token.
def display (s : Settings) : String :=
  "SanityConfig(project=" ++ Text.quoted s.project ++
    ", dataset=" ++ Text.quoted s.dataset ++
    ", api_protocol=" ++ Text.quoted s.protocol ++
    ", api_host=" ++ Text.quoted s.host ++
    ", api_version=" ++ Text.quoted s.version ++
    ", read_type=" ++ Text.quoted s.readType ++
    ", mutation_visibility=" ++ Text.quoted s.visibility.name ++
    ", insert_mutation=<MutationType." ++ s.insertKind.label ++ ": " ++
      Text.quoted s.insertKind.name ++ ">)"

end Settings

end DocStore
