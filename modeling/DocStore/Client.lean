import DocStore.Failure
import DocStore.Service.State
import DocStore.Status

namespace DocStore

inductive Level where
  | debug
  | info
  | warning
deriving DecidableEq, Repr

structure LogLine where
  level : Level
  text  : String
deriving DecidableEq, Repr

abbrev Record := Entries String JsonText

-- A client has settings once it was started with good properties, and a session until it stops.
structure Client where
  properties : Entries String Json
  session    : Option Headers  := none
  settings   : Option Settings := none

structure Outcome (α : Type) where
  result  : Except Failure α
  log     : List LogLine
  service : Service

namespace Outcome

def fail {α : Type} (service : Service) (failure : Failure) : Outcome α :=
  ⟨.error failure, [], service⟩

def andThen {α β : Type} (o : Outcome α) (next : α → Except Failure β × List LogLine) : Outcome β :=
  match o.result with
  | .error failure => ⟨.error failure, o.log, o.service⟩
  | .ok a => ⟨(next a).1, o.log ++ (next a).2, o.service⟩

end Outcome

namespace Response

-- The text of a field of a row: a text as it is, nothing for lists and objects, else its JSON.
def valueText (v : Json) : JsonText :=
  match v with
  | .text t => t
  | .array _ => ""
  | .object _ => ""
  | v => v.spaced

abbrev Row := Entries JsonText Json

def rowsOf (result : Json) : List Row :=
  match result with
  | .object members => [members]
  | .array items => items.filterMap Json.members?
  | _ => []

-- What a response says that was not a failure: nothing, no rows at all, or some rows.
inductive Content where
  | nothing
  | noRows
  | rows (rows : List Row)

def contentOf (body : Json) : Content :=
  match body with
  | .null => .nothing
  | .object members =>
    match Entries.get? members "result" with
    | some result => .rows (rowsOf result)
    | none => .noRows
  | _ => .noRows

-- The content of a response text. A blank text says nothing.
def content (stack : Stack) (text : String) : Except Failure Content :=
  if Text.allBlank text then .ok .nothing
  else
    match Json.read stack text with
    | .ok body => .ok (contentOf body)
    | .error e => .error (.ofReadError text e)

def record (fields : List String) (row : Row) : Record :=
  Entries.ofList (fields.filterMap fun field =>
    (row.get? (.plain field)).map fun v => (field, valueText v))

end Response

namespace Client

-- The settings are kept from the last start that was given good properties.
def start (c : Client) : Client × Except Failure Unit × List LogLine :=
  match Settings.ofProperties c.properties with
  | .error issues => (c, .error (.configuration issues), [])
  | .ok settings =>
    let session := Headers.update (c.session.getD Headers.standard) settings.headers
    let line := "Sanity binding initialized: url=" ++ settings.origin ++ ", dataset=" ++
      settings.dataset ++ ", visibility=" ++ settings.visibility.name
    ({ c with session := some session, settings := some settings }, .ok (), [⟨.info, line⟩])

def stop (c : Client) : Client :=
  { c with session := none }

def exchange (c : Client) (s : Service) (method address : String)
    (parameters : List (String × String)) (body : Option String) : Outcome (Request × Response) :=
  let attempt : LogLine := ⟨.debug, method ++ " " ++ address⟩
  match c.session with
  | none => ⟨.error .notReady, [attempt], s⟩
  | some headers =>
    let draft : Request.Draft :=
      { method, address, parameters, headers := headers.given, body := body.map .text }
    match Request.prepare draft with
    | .error fault => ⟨.error (.ofRejection method address fault), [attempt], s⟩
    | .ok request =>
      match s.send request with
      | (s, .error fault) => ⟨.error (Failure.ofFault method address fault), [attempt], s⟩
      | (s, .ok response) =>
        if Text.isOverlong response.code then ⟨.error .overlongCode, [attempt], s⟩
        else
          let received := method ++ " " ++ address ++ " -> " ++ response.code.repr
          ⟨.ok (request, response), [attempt, ⟨.debug, received⟩], s⟩

-- The status of a response, with a warning if it is no success.
def statusOf (request : Request) (response : Response) : Status × List LogLine :=
  let status := Status.ofCode response.code
  let line := request.method ++ " " ++ request.url.text ++ " returned " ++ response.code.repr ++
    " (" ++ status.name ++ ")"
  (status, if status.isSuccess then [] else [⟨.warning, line⟩])

-- A status that ends a query, or the rows it found.
inductive Answer where
  | ended (status : Status)
  | found (rows : List Response.Row)

-- What a response means as the answer to a query.
def interpret (stack : Stack) (query : String) (request : Request) (response : Response) :
    Except Failure Answer × List LogLine :=
  if 300 ≤ response.code then
    let (status, log) := statusOf request response
    (.ok (.ended status), log)
  else
    match Response.content stack response.text with
    | .error failure => (.error failure, [])
    | .ok .nothing =>
      (.ok (.ended .unexpectedState),
        [⟨.warning, "Empty query response for " ++ Text.quoted query⟩])
    | .ok .noRows => (.ok (.ended .notFound), [])
    | .ok (.rows rows) => (.ok (.found rows), [])

def ask (c : Client) (s : Service) (query : String) : Outcome Answer :=
  match c.settings with
  | none => .fail s .notReady
  | some settings =>
    (c.exchange s "GET" settings.queryAddress [("query", query)] none).andThen
      fun (request, response) => interpret s.stack query request response

-- Posts a mutation; of the response only the code matters.
def submit (c : Client) (s : Service) (address body : String)
    (parameters : List (String × String)) : Outcome Status :=
  (c.exchange s "POST" address parameters (some body)).andThen fun (request, response) =>
    let (status, log) := statusOf request response
    (.ok status, log)

-- What the rows of a query do to the record of a read: later rows overwrite earlier ones.
def deliverRecord (fields : Option (List String)) (into : Record) : Answer → Status × Record
  | .ended status => (status, into)
  | .found [] => (.notFound, into)
  | .found rows =>
    match fields with
    | none => (.ok, into)
    | some fields =>
      (.ok, rows.foldl (fun into row => into.update (Response.record fields row)) into)

-- What the rows of a query do to the records of a scan: each row adds one.
def deliverRecords (fields : Option (List String)) (into : List Record) :
    Answer → Status × List Record
  | .ended status => (status, into)
  | .found rows =>
    match fields with
    | none => (.ok, into)
    | some fields => (.ok, into ++ rows.map (Response.record fields))

-- Splits what was delivered from the status; a failed call delivers nothing.
def collect {α : Type} (o : Outcome Answer) (into : α) (deliver : Answer → Status × α) :
    Outcome Status × α :=
  match o.result with
  | .error failure => (⟨.error failure, o.log, o.service⟩, into)
  | .ok answer => (⟨.ok (deliver answer).1, o.log, o.service⟩, (deliver answer).2)

def read (c : Client) (s : Service) (type id : String) (fields : Option (List String))
    (into : Record) : Outcome Status × Record :=
  collect (c.ask s (Query.lookup type id (fields.getD [])).text) into (deliverRecord fields into)

-- Adds up to `count` records to those there are, in order of their ids, from an id on.
def scan (c : Client) (s : Service) (type start : String) (count : Int)
    (fields : Option (List String)) (into : List Record) : Outcome Status × List Record :=
  match Query.range type start count (fields.getD []) with
  | .error fault => (.fail s (.badCount fault), into)
  | .ok q =>
    match q.build with
    | .error fault => (.fail s (.badCount fault), into)
    | .ok text => collect (c.ask s text) into (deliverRecords fields into)

def insert (c : Client) (s : Service) (type id : JsonText)
    (values : List (JsonText × FieldInput)) : Outcome Status :=
  match c.settings with
  | none => .fail s .notReady
  | some settings =>
    match Mutation.body ⟨settings.insertKind, type, id, values⟩ with
    | .error e => .fail s (.badBytes e)
    | .ok body => c.submit s settings.mutateAddress body [("visibility", settings.visibility.name)]

-- Posts a mutation whose body is built before the settings are looked at.
def post (c : Client) (s : Service) (m : Mutation) : Outcome Status :=
  match m.body with
  | .error e => .fail s (.badBytes e)
  | .ok body =>
    match c.settings with
    | none => .fail s .notReady
    | some settings => c.submit s settings.mutateAddress body []

def update (c : Client) (s : Service) (type id : JsonText)
    (values : List (JsonText × FieldInput)) : Outcome Status :=
  c.post s ⟨.patch, type, id, values⟩

def delete (c : Client) (s : Service) (type id : JsonText) : Outcome Status :=
  c.post s ⟨.delete, type, id, []⟩

end Client

end DocStore
