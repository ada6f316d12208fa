import DocStore.Base64
import DocStore.Percent
import DocStore.Text.Unencodable

namespace DocStore

structure Credentials where
  user     : List Char
  password : List Char
deriving DecidableEq, Repr

namespace Credentials

def isSingleByte (p : CodePoint) : Bool :=
  p.code < 0x100

def encode (s : List Char) : Except Text.Unencodable (List UInt8) :=
  match Text.Unencodable.find? isSingleByte (s.map .char) with
  | none => .ok (s.map fun c => .ofNat c.toNat)
  | some u => .error u

def header (c : Credentials) : Except Text.Unencodable String := do
  let user ← encode c.user
  let password ← encode c.password
  return "Basic " ++ String.ofList (Base64.encode (user ++ Utf8.encodeChar ':' ++ password))

-- The credentials in the part of an address before its host. A name without a password is none.
def ofUserInfo? (info : List Char) : Option Credentials :=
  let plain := fun s => Utf8.decodeLossy (Percent.bytes s)
  match info.dropWhile (· != ':') with
  | [] => none
  | _ :: password =>
    let c : Credentials := ⟨plain (info.takeWhile (· != ':')), plain password⟩
    if c.user.isEmpty ∧ c.password.isEmpty then none else some c

end Credentials

end DocStore
