import DocStore.Client

namespace DocStore

structure Bench where
  service : Service               := {}
  clients : Entries String Client := []

namespace Bench

-- A call on a client, whose names are strings. Reads and scans are given what they add to.
inductive Call where
  | start
  | stop
  | read (type id : String) (fields : Option (List String)) (into : Record)
  | scan (type start : String) (count : Int) (fields : Option (List String)) (into : List Record)
  | insert (type id : String) (values : List (String × FieldInput))
  | update (type id : String) (values : List (String × FieldInput))
  | delete (type id : String)

inductive Step where
  -- Puts a client on the bench, in place of one of the same name.
  | enter (name : String) (client : Client)
  | call (name : String) (call : Call)
  | enqueue (queued : QueuedAnswer)
  | request (draft : Request.Draft)
  | clear

inductive Delivery where
  | nothing
  | record (record : Record)
  | records (records : List Record)
deriving DecidableEq, Repr

inductive RequestFailure where
  | rejected (fault : Request.Fault)
  | fault (fault : Service.Fault)
deriving DecidableEq, Repr

inductive Report where
  | quiet
  | call (result : Except Failure (Option Status)) (log : List LogLine) (delivery : Delivery)
  | response (result : Except RequestFailure Response)

def reportOf (o : Outcome Status) (delivery : Delivery) : Report × Service :=
  (.call (o.result.map some) o.log delivery, o.service)

def runCall (c : Client) (s : Service) : Call → Report × Client × Service
  | .start =>
    let (c, result, log) := c.start
    (.call (result.map fun _ => none) log .nothing, c, s)
  | .stop => (.call (.ok none) [] .nothing, c.stop, s)
  | .read type id fields into =>
    let (o, into) := c.read s type id fields into
    let (report, s) := reportOf o (.record into)
    (report, c, s)
  | .scan type start count fields into =>
    let (o, into) := c.scan s type start count fields into
    let (report, s) := reportOf o (.records into)
    (report, c, s)
  | .insert type id values =>
    let (report, s) := reportOf (c.insert s type id (Mutation.named values)) .nothing
    (report, c, s)
  | .update type id values =>
    let (report, s) := reportOf (c.update s type id (Mutation.named values)) .nothing
    (report, c, s)
  | .delete type id =>
    let (report, s) := reportOf (c.delete s type id) .nothing
    (report, c, s)

def request (s : Service) (draft : Request.Draft) : Service × Except RequestFailure Response :=
  match Request.prepare draft with
  | .error fault => (s, .error (.rejected fault))
  | .ok r =>
    let (s, result) := s.send r
    (s, result.mapError .fault)

def step (b : Bench) : Step → Report × Bench
  | .enter name client => (.quiet, { b with clients := b.clients.put name client })
  | .call name call =>
    match b.clients.get? name with
    | none => (.quiet, b)
    | some c =>
      let (report, c, service) := runCall c b.service call
      (report, { service, clients := b.clients.put name c })
  | .enqueue queued => (.quiet, { b with service := b.service.enqueue queued })
  | .request draft =>
    let (service, result) := request b.service draft
    (.response result, { b with service })
  | .clear => (.quiet, { b with service := b.service.clear })

def run (b : Bench) : List Step → List Report × Bench
  | [] => ([], b)
  | s :: steps =>
    let (report, b) := b.step s
    let (reports, b) := run b steps
    (report :: reports, b)

end Bench

end DocStore
