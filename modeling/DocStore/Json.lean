import DocStore.Binary64
import DocStore.Entries
import DocStore.Json.Text

namespace DocStore

inductive Json where
  | null
  | bool (value : Bool)
  | int (value : Int)
  | float (value : Binary64)
  | text (value : JsonText)
  | array (items : List Json)
  | object (members : List (JsonText × Json))
deriving Inhabited

namespace Json

def isNull : Json → Bool
  | .null => true
  | _ => false

def string? : Json → Option String
  | .text t => t.string?
  | _ => none

def members? : Json → Option (Entries JsonText Json)
  | .object members => some members
  | _ => none

@[simp] theorem string?_eq_some {v : Json} {s : String} : v.string? = some s ↔ v = .text s := by
  cases v <;> simp [string?]

@[simp] theorem members?_eq_some {v : Json} {m : List (JsonText × Json)} :
    v.members? = some m ↔ v = .object m := by
  cases v <;> simp [members?]

end Json

end DocStore
