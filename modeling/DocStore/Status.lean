namespace DocStore

inductive Status where
  | ok
  | notFound
  | badRequest
  | forbidden
  | notImplemented
  | serviceUnavailable
  | error
  | unexpectedState
deriving DecidableEq, Repr, Inhabited

namespace Status

def name : Status → String
  | .ok => "OK"
  | .notFound => "NOT_FOUND"
  | .badRequest => "BAD_REQUEST"
  | .forbidden => "FORBIDDEN"
  | .notImplemented => "NOT_IMPLEMENTED"
  | .serviceUnavailable => "SERVICE_UNAVAILABLE"
  | .error => "ERROR"
  | .unexpectedState => "UNEXPECTED_STATE"

def isSuccess (s : Status) : Bool :=
  s = .ok

-- Codes from 200 to 299 are a success, five others have a status of their own.
def ofCode (code : Int) : Status :=
  if 200 ≤ code ∧ code < 300 then .ok
  else if code = 400 then .badRequest
  else if code = 403 then .forbidden
  else if code = 404 then .notFound
  else if code = 501 then .notImplemented
  else if code = 503 then .serviceUnavailable
  else .error

theorem ofCode_eq_ok_iff {code : Int} : ofCode code = .ok ↔ 200 ≤ code ∧ code < 300 := by
  unfold ofCode
  split
  case isTrue h => simpa using h
  case isFalse h =>
    simp only [h, iff_false]
    repeat' split
    all_goals simp

end Status

end DocStore
