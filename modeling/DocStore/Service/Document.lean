import DocStore.Entries
import DocStore.Key

namespace DocStore

abbrev Document := Entries Key Json

namespace Document

def ofMembers (members : List (JsonText × Json)) : Document :=
  members.map fun (name, value) => (.text name, value)

-- Two keys that are spelled alike give two members of one name.
def toMembers (d : Document) : List (JsonText × Json) :=
  d.map fun (key, value) => (key.name, value)

def toJson (d : Document) : Json :=
  .object d.toMembers

@[simp] theorem toMembers_ofMembers (members : List (JsonText × Json)) :
    toMembers (ofMembers members) = members := by
  induction members with
  | nil => rfl
  | cons e rest ih => simpa [toMembers, ofMembers, Key.name] using ih

def field? (d : Document) (name : String) : Option Json :=
  Entries.get? d (.text name)

end Document

-- The documents of a dataset in the order of their creation.
abbrev Documents := Entries Key Document

end DocStore
