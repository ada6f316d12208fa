import DocStore.Text.Quoted

namespace DocStore.Text

-- The first run of code points in a text that cannot be encoded.
structure Unencodable where
  position : Nat
  point    : CodePoint
  length   : Nat
deriving DecidableEq, Repr

namespace Unencodable

def find? (isEncodable : CodePoint → Bool) (points : List CodePoint) : Option Unencodable :=
  match points.dropWhile isEncodable with
  | [] => none
  | p :: rest =>
    some ⟨(points.takeWhile isEncodable).length, p, (rest.takeWhile (!isEncodable ·)).length + 1⟩

def message (u : Unencodable) (encoding reason : String) : String :=
  let place :=
    if u.length = 1 then
      "character '" ++ String.ofList (Quoted.numbered u.point.code) ++ "' in position " ++
        u.position.repr
    else "characters in position " ++ u.position.repr ++ "-" ++ (u.position + u.length - 1).repr
  "'" ++ encoding ++ "' codec can't encode " ++ place ++ ": " ++ reason

end Unencodable

end DocStore.Text
