namespace DocStore

-- The frames that are left where a walk through a value begins. There are always some.
structure Stack where
  frames : Nat
  ample  : 32 ≤ frames
deriving DecidableEq, Repr

namespace Stack

instance : Inhabited Stack := ⟨990, by decide⟩

-- The containers that may be open at once where JSON text is read or written.
def room (s : Stack) : Nat :=
  s.frames - 3

end Stack

end DocStore
