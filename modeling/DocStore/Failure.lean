import DocStore.ErrorKind
import DocStore.Query
import DocStore.Request
import DocStore.Service.Fault
import DocStore.Settings

namespace DocStore

inductive TransportCause where
  | rejected (fault : Request.Fault)
  | broken (failure : QueuedFailure)
deriving DecidableEq, Repr

def TransportCause.message : TransportCause → String
  | .rejected fault => fault.message
  | .broken failure => failure.message

inductive Failure where
  | notReady
  | configuration (issues : List Settings.Issue)
  | transport (method address : String) (cause : TransportCause)
  | badCount (fault : CountFault)
  | badBytes (error : Utf8.Error)
  | badResponse (error : Json.Error) (body : String)
  | tooDeep (container : Json.Container)
  -- The code of a response is too long to be logged.
  | overlongCode
  | unfitRequest (fault : Request.Fault)
  | service (fault : Service.Fault)
deriving DecidableEq, Repr

namespace Failure

-- The kind of database error that a failure is, if it is one.
def kind? : Failure → Option ErrorKind
  | .notReady => some .database
  | .configuration _ => some .configuration
  | .transport _ _ _ => some .transport
  | .badCount (.negative _) => some .invalidValue
  | .badCount .overlong => none
  | .badBytes _ => some .invalidValue
  | .badResponse _ _ => some .responseParse
  | .tooDeep _ => none
  | .overlongCode => none
  | .unfitRequest _ => none
  | .service _ => none

def message? : Failure → Option String
  | .notReady => some "SanityClient used before init()"
  | .configuration issues => some (Settings.reportTitle issues)
  | .transport method address cause =>
    some (method ++ " " ++ address ++ " failed: " ++ cause.message)
  | .badCount fault => some fault.message
  | .badBytes error => some ("Field value is not valid UTF-8: " ++ error.message)
  | .badResponse error _ => some ("Invalid JSON in query response: " ++ error.message)
  | .tooDeep container => some container.tooDeepMessage
  | .overlongCode => some Text.overlongMessage
  | .unfitRequest fault => some fault.message
  | .service fault => fault.message?

-- How a rejected request reaches the caller of a client.
def ofRejection (method address : String) (fault : Request.Fault) : Failure :=
  if fault.isTransport then .transport method address (.rejected fault) else .unfitRequest fault

def ofReadError (text : String) : Json.Error → Failure
  | .tooDeep container => .tooDeep container
  | error => .badResponse error text

def ofFault (method address : String) : Service.Fault → Failure
  | .queued failure =>
    if failure.kind.isTransport then .transport method address (.broken failure)
    else .service (.queued failure)
  | fault => .service fault

end Failure

end DocStore
