import DocStore.Json.Display
import DocStore.Text.Blank
import DocStore.Text.Case

namespace DocStore

abbrev Headers := List (String × String)

namespace Headers

def sameName (a b : String) : Bool :=
  Text.lower a.toList = Text.lower b.toList

def find? (headers : Headers) (name : String) : Option String :=
  (List.find? (fun header => sameName header.1 name) headers).map Prod.snd

-- A header that is there keeps its place and takes the spelling of the new name.
def put {α : Type} (name : String) (value : α) : List (String × α) → List (String × α)
  | [] => [(name, value)]
  | header :: rest =>
    if sameName header.1 name then (name, value) :: rest else header :: put name value rest

theorem find?_put_self (headers : Headers) (name value : String) :
    find? (put name value headers) name = some value := by
  induction headers with
  | nil => simp [put, find?, sameName]
  | cons header rest ih =>
    unfold put
    split
    case isTrue => simp [find?, sameName]
    case isFalse h => simpa [find?, h] using ih

theorem find?_put_of_not_sameName (headers : Headers) {name other : String} (value : String)
    (h : sameName name other = false) :
    find? (put name value headers) other = find? headers other := by
  induction headers with
  | nil => simp [put, find?, h]
  | cons header rest ih =>
    unfold put
    split
    case isTrue hs =>
      have hn : sameName header.1 other = false := by
        simp only [sameName, decide_eq_true_eq] at hs
        simpa [sameName, hs] using h
      simp [find?, h, hn]
    case isFalse => cases ho : sameName header.1 other <;> simp_all [find?]

def update {α : Type} (headers new : List (String × α)) : List (String × α) :=
  new.foldl (fun headers header => put header.1 header.2 headers) headers

-- Headers as they are given, before it is known that they can be sent.
abbrev Given := List (String × Json)

def given (headers : Headers) : Given :=
  headers.map fun (name, value) => (name, .text value)

-- The headers of a session with those of a request over them. A null takes a header away.
def override (headers : Headers) (changes : Given) : Given :=
  (update headers.given changes).filter fun (_, value) => !value.isNull

-- The headers that every session starts with.
def standard : Headers :=
  [("User-Agent", "docstore"), ("Accept-Encoding", "gzip, deflate"),
   ("Accept", "*/*"), ("Connection", "keep-alive")]

-- A name does not start with a blank, has no colon and stays on one line.
def isName (name : String) : Bool :=
  match name.toList with
  | [] => false
  | c :: cs => !Text.isBlank c && (c :: cs).all fun c => c != ':' && c != '\r' && c != '\n'

-- A value is empty, or starts with a character that is not blank and stays on one line.
def isValue (value : String) : Bool :=
  match value.toList with
  | [] => true
  | c :: cs => !Text.isBlank c && (c :: cs).all fun c => c != '\r' && c != '\n'

inductive Fault where
  | name (name : String)
  | value (value : String)
  -- A value is no text; what it is, and of which kind.
  | notText (header shown kind : String)
deriving DecidableEq, Repr

def unfitMessage (part text : String) : String :=
  "Invalid leading whitespace, reserved character(s), or return character(s) in header " ++ part ++
    ": " ++ Text.quoted text

def Fault.message : Fault → String
  | .name text => unfitMessage "name" text
  | .value text => unfitMessage "value" text
  | .notText header shown kind =>
    "Header part (" ++ shown ++ ") from (" ++ Text.quoted header ++ ", " ++ shown ++
      ") must be of type str or bytes, not <class '" ++ kind ++ "'>"

def valueOf (name : String) (value : Json) : Except Fault String :=
  match value.string? with
  | none => .error (.notText name value.literal value.kindName)
  | some s => if isValue s then .ok s else .error (.value s)

-- The headers that can be sent, or the first fault of any. The name of a header comes before its
-- value.
def checked : Given → Except Fault Headers
  | [] => .ok []
  | (name, value) :: rest =>
    if isName name then
      match valueOf name value with
      | .error fault => .error fault
      | .ok s => (checked rest).map ((name, s) :: ·)
    else .error (.name name)

end Headers

end DocStore
