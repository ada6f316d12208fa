import DocStore.Json.Printer
import DocStore.Json.Reader
import DocStore.Text.Unencodable
import DocStore.Utf8

namespace DocStore

-- A kind of failure on the way to the service and back.
inductive Breakdown where
  | connection
  | timeout
  | readTimeout
  | secureLayer
  | tooManyRedirects
  | request
  | system
  | internal
  | value
deriving DecidableEq, Repr

-- Whether a failure is one of sending the request, and not one of the machine or the program.
def Breakdown.isTransport : Breakdown → Bool
  | .system => false
  | .internal => false
  | .value => false
  | _ => true

structure QueuedFailure where
  kind    : Breakdown
  message : String
deriving DecidableEq, Repr

namespace Service

inductive Fault where
  | missingMember
  -- A value is of a kind that the operation on it does not take.
  | unfitValue
  | notObject
  | emptyMutation
  | badPair (index length : Nat)
  -- The count of a query has too many digits.
  | countTooLong (digits : Nat)
  -- The rows that answer a query are too deep to be copied.
  | rowsTooDeep
  | badJson (error : Json.Error)
  | badUtf8 (error : Utf8.Error)
  -- The body of an answer has no JSON text.
  | unwritable (obstacle : Json.Obstacle)
  -- The text of a queued answer cannot be sent.
  | unencodable (text : JsonText)
  | queued (failure : QueuedFailure)
deriving DecidableEq, Repr

-- The text of a fault; a value of a wrong shape has none.
def Fault.message? : Fault → Option String
  | .missingMember => none
  | .unfitValue => none
  | .notObject => none
  | .emptyMutation => none
  | .badPair index length =>
    some ("dictionary update sequence element #" ++ index.repr ++ " has length " ++ length.repr ++
      "; 2 is required")
  | .countTooLong digits => some (Json.tooLongMessage digits)
  | .rowsTooDeep => some "maximum recursion depth exceeded while calling a Python object"
  | .badJson error => some error.message
  | .badUtf8 error => some error.message
  | .unwritable obstacle => some obstacle.message
  | .unencodable text =>
    (Text.Unencodable.find? (!·.isSurrogate) text.points).map
      (·.message "utf-8" "surrogates not allowed")
  | .queued failure => some failure.message

end Service

end DocStore
