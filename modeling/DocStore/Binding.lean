import DocStore.Entries
import DocStore.Json

namespace DocStore.Binding

inductive Operation where
  | read
  | scan
  | update
  | insert
  | delete
  | start
  | stop
deriving DecidableEq, Repr

namespace Operation

def all : List Operation :=
  [.read, .scan, .update, .insert, .delete, .start, .stop]

def name : Operation → String
  | .read => "read"
  | .scan => "scan"
  | .update => "update"
  | .insert => "insert"
  | .delete => "delete"
  | .start => "init"
  | .stop => "cleanup"

-- Starting and stopping do nothing unless a binding says otherwise.
def isRequired : Operation → Bool
  | .start => false
  | .stop => false
  | _ => true

end Operation

-- The required operations that are not among the provided ones, in the order of their names.
def missing (provided : List String) : List String :=
  (Operation.all.filter fun op => op.isRequired && !provided.contains op.name).map Operation.name
    |>.mergeSort (· ≤ ·)

theorem mem_missing {provided : List String} {name : String} :
    name ∈ missing provided ↔
      ∃ op : Operation, op.isRequired = true ∧ op.name = name ∧ name ∉ provided := by
  simp only [missing, List.mem_mergeSort, List.mem_map, List.mem_filter, Bool.and_eq_true,
    Bool.not_eq_true', List.contains_eq_mem, decide_eq_false_iff_not]
  constructor
  case mp => rintro ⟨op, ⟨-, h₁, h₂⟩, rfl⟩; exact ⟨op, h₁, rfl, h₂⟩
  case mpr =>
    rintro ⟨op, h₁, rfl, h₂⟩
    exact ⟨op, ⟨by cases op <;> simp [Operation.all], h₁, h₂⟩, rfl⟩

end DocStore.Binding
