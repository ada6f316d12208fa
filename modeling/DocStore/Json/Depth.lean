import DocStore.Json

namespace DocStore.Json

mutual

def depth : Json → Nat
  | .array items => itemsDepth items + 1
  | .object members => membersDepth members + 1
  | _ => 0

def itemsDepth : List Json → Nat
  | [] => 0
  | item :: items => max item.depth (itemsDepth items)

def membersDepth : List (JsonText × Json) → Nat
  | [] => 0
  | (_, value) :: members => max value.depth (membersDepth members)

end

-- The frames that copying a value takes.
mutual

def copyFrames : Json → Nat
  | .array items => itemsCopyFrames items + 2
  | .object members => membersCopyFrames members + 2
  | _ => 1

def itemsCopyFrames : List Json → Nat
  | [] => 0
  | item :: items => max item.copyFrames (itemsCopyFrames items)

def membersCopyFrames : List (JsonText × Json) → Nat
  | [] => 0
  | (_, value) :: members => max value.copyFrames (membersCopyFrames members)

end

theorem membersDepth_le_iff {members : List (JsonText × Json)} {n : Nat} :
    membersDepth members ≤ n ↔ ∀ member ∈ members, member.2.depth ≤ n := by
  induction members with
  | nil => simp [membersDepth]
  | cons member members ih => rw [membersDepth, Nat.max_le, ih, List.forall_mem_cons]

theorem itemsCopyFrames_le_iff {items : List Json} {n : Nat} :
    itemsCopyFrames items ≤ n ↔ ∀ item ∈ items, item.copyFrames ≤ n := by
  induction items with
  | nil => simp [itemsCopyFrames]
  | cons item items ih => rw [itemsCopyFrames, Nat.max_le, ih, List.forall_mem_cons]

theorem membersCopyFrames_le_iff {members : List (JsonText × Json)} {n : Nat} :
    membersCopyFrames members ≤ n ↔ ∀ member ∈ members, member.2.copyFrames ≤ n := by
  induction members with
  | nil => simp [membersCopyFrames]
  | cons member members ih => rw [membersCopyFrames, Nat.max_le, ih, List.forall_mem_cons]

end DocStore.Json
