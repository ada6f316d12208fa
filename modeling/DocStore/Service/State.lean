import DocStore.Request
import DocStore.Service.Apply
import DocStore.Service.Search

namespace DocStore

structure Response where
  code : Int
  text : String
deriving DecidableEq, Repr

-- A response as it is queued, with any text.
structure Canned where
  code : Int
  text : JsonText
deriving DecidableEq, Repr

namespace Canned

-- A response with a given text, or else the JSON text of a body, or else nothing.
def ofBody (stack : Stack) (code : Int) (body : Json) (text : Option JsonText) :
    Except Json.Obstacle Canned :=
  match text, body with
  | some text, _ => .ok ⟨code, text⟩
  | none, .null => .ok ⟨code, ""⟩
  | none, body => (body.write stack .spaced).map fun text => ⟨code, text⟩

-- The text is sent in UTF-8, which has no bytes for surrogates.
def sent (c : Canned) : Except Service.Fault Response :=
  match c.text.string? with
  | some text => .ok ⟨c.code, text⟩
  | none => .error (.unencodable c.text)

end Canned

inductive QueuedAnswer where
  | response (response : Canned)
  | failure (failure : QueuedFailure)
deriving DecidableEq, Repr

structure Service where
  token     : Option String     := none
  record    : List Request      := []
  queue     : List QueuedAnswer := []
  documents : Documents         := []
  stack     : Stack             := default

namespace Service

-- What the service answers of its own accord: a code and a JSON body.
structure Answer where
  code : Int
  body : Json

def Answer.response (stack : Stack) (a : Answer) : Except Fault Response :=
  match a.body.write stack .spaced with
  | .ok text => .ok ⟨a.code, text⟩
  | .error obstacle => .error (.unwritable obstacle)

def unauthorized : Answer :=
  ⟨401, .object [("error", .text "Unauthorized"), ("message", .text "Session not found")]⟩

def notFound : Answer :=
  ⟨404, .object [("error", .text "Not Found")]⟩

def methodNotAllowed : Answer :=
  ⟨405, .object [("error", .text "Method Not Allowed")]⟩

def errorBody (description : JsonText) (type : String) : Json :=
  .object [("error", .object [("description", .text description), ("type", .text type)])]

def unsupportedQuery (query : String) : Answer :=
  ⟨400, errorBody ("Unsupported query: " ++ query) "queryParseError"⟩

def refused (r : Refusal) : Answer :=
  ⟨r.code, errorBody r.description "mutationError"⟩

def rowsAnswer (query : String) (rows : List Document) : Answer :=
  ⟨200, .object [("ms", .int 1), ("query", .text query),
    ("result", .array (rows.map Document.toJson))]⟩

-- Transactions have no name that anyone may rely on.
def mutatedAnswer (entries : List Json) : Answer :=
  ⟨200, .object [("transactionId", .text "*"), ("results", .array entries)]⟩

inductive Endpoint where
  | query
  | mutate
deriving DecidableEq, Repr

-- A path has a version that is not empty, the name of an endpoint, and a dataset.
def endpoint? (path : List Char) : Option Endpoint :=
  match path.splitOn '/' with
  | [[], _ :: _, name, _] =>
    if name = "query".toList then some .query
    else if name = "mutate".toList then some .mutate
    else none
  | _ => none

-- Whether a request may pass: it has to carry the token, if there is one.
def authorizes (token : Option String) (r : Request) : Bool :=
  match token with
  | none => true
  | some token => r.authorization = some ("Bearer " ++ token)

def parameter? (r : Request) (name : String) : Option String :=
  (r.parameters.find? (·.1 = name)).map Prod.snd

def answerQuery (stack : Stack) (query : String) (documents : Documents) : Except Fault Answer :=
  match Selection.parse? query.toList with
  | none => .ok (unsupportedQuery query)
  | some q => (q.run stack documents).map (rowsAnswer query)

def answerItems (items : List Json) (documents : Documents) : Documents × Except Fault Answer :=
  match applyItems items documents with
  | (documents, .ok entries) => (documents, .ok (mutatedAnswer entries))
  | (documents, .error (.refused r)) => (documents, .ok (refused r))
  | (documents, .error (.fault fault)) => (documents, .error fault)

-- The JSON value in the body of a request; an empty body stands for the given text.
def bodyJson (stack : Stack) (r : Request) (default : String) : Except Fault Json :=
  match r.bodyText with
  | .error e => .error (.badUtf8 e)
  | .ok text => (Json.read stack (text.getD default)).mapError .badJson

def answerMutate (stack : Stack) (r : Request) (documents : Documents) :
    Documents × Except Fault Answer :=
  match bodyJson stack r "\x7b\x7d" with
  | .error fault => (documents, .error fault)
  | .ok body =>
    match itemsOf body with
    | .error fault => (documents, .error fault)
    | .ok items => answerItems items documents

-- The answer of a service without queued answers, and the documents after it.
def answer (token : Option String) (stack : Stack) (r : Request) (documents : Documents) :
    Documents × Except Fault Answer :=
  if authorizes token r then
    match endpoint? r.url.path with
    | none => (documents, .ok notFound)
    | some .query =>
      if r.method = "GET" then
        (documents, answerQuery stack ((parameter? r "query").getD "") documents)
      else (documents, .ok methodNotAllowed)
    | some .mutate =>
      if r.method = "POST" then answerMutate stack r documents
      else (documents, .ok methodNotAllowed)
  else (documents, .ok unauthorized)

def send (s : Service) (r : Request) : Service × Except Fault Response :=
  let s := { s with record := s.record ++ [r] }
  match s.queue with
  | .response response :: rest => ({ s with queue := rest }, response.sent)
  | .failure failure :: rest => ({ s with queue := rest }, .error (.queued failure))
  | [] =>
    let (documents, result) := answer s.token s.stack r s.documents
    ({ s with documents }, result.bind (Answer.response s.stack))

def enqueue (s : Service) (queued : QueuedAnswer) : Service :=
  { s with queue := s.queue ++ [queued] }

def clear (s : Service) : Service where
  token := s.token
  stack := s.stack

def latest? (s : Service) : Option Request :=
  s.record.getLast?

def latestBody? (s : Service) : Option (Except Fault Json) :=
  s.latest?.map (bodyJson s.stack · "null")

def latestParameters? (s : Service) : Option (Entries String String) :=
  s.latest?.map fun r => Entries.ofList r.parameters

end Service

end DocStore
