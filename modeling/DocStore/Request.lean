import DocStore.Headers
import DocStore.Url

namespace DocStore

inductive Payload where
  | text (value : String)
  | bytes (value : List UInt8)
deriving DecidableEq, Repr

namespace Payload

def isEmpty : Payload → Bool
  | .text s => s = ""
  | .bytes b => b.isEmpty

def size : Payload → Nat
  | .text s => (Utf8.encode s.toList).length
  | .bytes b => b.length

end Payload

structure Request where
  method  : String
  url     : Url
  headers : Headers
  body    : Option Payload
deriving DecidableEq, Repr

namespace Request

-- Why a request is rejected before it is sent.
inductive Fault where
  | address (fault : Url.Fault)
  | header (fault : Headers.Fault)
  | authority (fault : Authority.Fault)
  | credentials (fault : Text.Unencodable)
deriving DecidableEq, Repr

def Fault.message : Fault → String
  | .address fault => fault.message
  | .header fault => fault.message
  | .authority fault => fault.message
  | .credentials fault => fault.message "latin-1" "ordinal not in range(256)"

-- Whether a rejection is one of sending requests; the others are of texts that do not fit.
def Fault.isTransport : Fault → Bool
  | .address _ => true
  | .header _ => true
  | _ => false

structure Draft where
  method     : String
  address    : String
  parameters : List (String × String) := []
  headers    : Headers.Given := []
  body       : Option Payload := none

-- The headers with the credentials of the address, which take the place of any that are given.
def authorize (headers : Headers) (authority : List Char) : Except Fault Headers :=
  match Authority.credentials? authority with
  | none => .ok headers
  | some c =>
    match c.header with
    | .error fault => .error (.credentials fault)
    | .ok value => .ok (Headers.put "Authorization" value headers)

def outgoing (given : Headers.Given) (address : Address) : Except Fault Headers :=
  match Headers.checked given with
  | .error fault => .error (.header fault)
  | .ok headers =>
    match Authority.fault? address.authority with
    | some fault => .error (.authority fault)
    | none => authorize headers address.authority

-- The address comes first, its authority as it was given before its normal form; then the headers.
-- Only then does it matter whether anything can be sent to the address.
def prepare (d : Draft) : Except Fault Request :=
  match Authority.fault? (Authority.ofAddress d.address.toList) with
  | some fault => .error (.authority fault)
  | none =>
    match Address.ofText d.address d.parameters with
    | .error fault => .error (.address fault)
    | .ok address =>
      match outgoing d.headers address with
      | .error fault => .error fault
      | .ok headers =>
        match address.supported? with
        | .error text => .error (.address (.unknownScheme text))
        | .ok url =>
          .ok {
            method  := String.ofList (Text.upper d.method.toList)
            url     := url
            headers := headers
            body    := d.body.filter (!·.isEmpty) }

def authorization (r : Request) : Option String :=
  r.headers.find? "Authorization"

def contentType (r : Request) : Option String :=
  r.headers.find? "Content-Type"

-- The length of the body; without one it is zero, but for the two methods that need none.
def contentLength (r : Request) : Option String :=
  match r.body with
  | some body => some body.size.repr
  | none =>
    match r.headers.find? "Content-Length" with
    | some given => some given
    | none => if r.method = "GET" ∨ r.method = "HEAD" then none else some "0"

def parameters (r : Request) : List (String × String) :=
  Form.decode r.url.query

def bodyText (r : Request) : Except Utf8.Error (Option String) :=
  match r.body with
  | none => .ok none
  | some (.text s) => .ok (some s)
  | some (.bytes b) => (Utf8.decode b).map fun cs => some (String.ofList cs)

end Request

end DocStore
