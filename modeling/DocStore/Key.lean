import DocStore.Json.Display

namespace DocStore

inductive Key where
  | null
  | bool (value : Bool)
  | int (value : Int)
  | float (value : Binary64)
  | text (value : JsonText)
deriving DecidableEq, Repr

namespace Key

-- The one form of all keys that are the same.
def canonical : Key → Key
  | .bool b => .int (if b then 1 else 0)
  | .float x =>
    match x.toInt? with
    | some n => .int n
    | none => .float x
  | k => k

instance : BEq Key where
  beq a b := a.canonical = b.canonical

theorem beq_iff {a b : Key} : (a == b) = true ↔ a.canonical = b.canonical := by
  simp [BEq.beq]

instance : EquivBEq Key where
  rfl := beq_iff.mpr rfl
  symm h := beq_iff.mpr (beq_iff.mp h).symm
  trans h₁ h₂ := beq_iff.mpr ((beq_iff.mp h₁).trans (beq_iff.mp h₂))

@[simp] theorem text_beq {t : JsonText} {k : Key} : (text t == k) = true ↔ k = .text t := by
  rw [beq_iff]
  cases k with
  | float x => simp only [canonical]; split <;> simp
  | text u => simp [canonical, eq_comm]
  | _ => simp [canonical]

-- Lists and objects name nothing.
def ofJson? : Json → Option Key
  | .null => some .null
  | .bool b => some (.bool b)
  | .int n => some (.int n)
  | .float x => some (.float x)
  | .text t => some (.text t)
  | .array _ => none
  | .object _ => none

def toJson : Key → Json
  | .null => .null
  | .bool b => .bool b
  | .int n => .int n
  | .float x => .float x
  | .text t => .text t

-- The name of a member that stands for the key in JSON: a text as it is, else its JSON text.
def name : Key → JsonText
  | .text t => t
  | k => k.toJson.spaced

def display : Key → JsonText
  | .text t => t
  | k => k.toJson.display

end Key

end DocStore
