import Mathlib.Data.List.Basic

namespace DocStore.Text

theorem mem_intercalate {separator : List Char} {parts : List (List Char)} {c : Char}
    (hc : c ∉ separator) : c ∈ separator.intercalate parts ↔ ∃ part ∈ parts, c ∈ part := by
  induction parts
  case nil => simp
  case cons part parts hi =>
    cases parts
    case nil => simp
    case cons => simp_all [List.intercalate_cons_cons]

theorem map_intercalate (f : Char → Char) (c : Char) (parts : List (List Char)) :
    ([c].intercalate parts).map f = [f c].intercalate (parts.map (List.map f)) := by
  induction parts
  case nil => rfl
  case cons part parts hi =>
    cases parts
    case nil => simp
    case cons => simp [List.intercalate_cons_cons, hi]

theorem not_mem_of_mem_splitOn {c : Char} {s part : List Char} (h : part ∈ s.splitOn c) :
    c ∉ part := by
  induction s generalizing part
  case nil =>
    rw [List.splitOn_nil, List.mem_singleton] at h
    simp [h]
  case cons d s hi =>
    rw [List.splitOn_cons_eq_if_modifyHead] at h
    split at h
    case isTrue =>
      rcases List.mem_cons.mp h with rfl | h
      case inl => simp
      case inr => exact hi h
    case isFalse hd =>
      cases hs : s.splitOn c
      case nil => exact absurd hs (List.splitOn_ne_nil c s)
      case cons first rest =>
        rw [hs] at h hi
        rcases List.mem_cons.mp h with rfl | h
        case inl =>
          simp only [List.mem_cons, not_or]
          exact ⟨fun he => hd (by simp [he]), hi (.head _)⟩
        case inr => exact hi (.tail _ h)

theorem splitOn_intercalate {c : Char} {parts : List (List Char)} (h : parts ≠ []) :
    ([c].intercalate parts).splitOn c = parts.flatMap (·.splitOn c) := by
  induction parts
  case nil => exact absurd rfl h
  case cons part parts hi =>
    cases parts
    case nil => simp
    case cons next parts =>
      rw [List.intercalate_cons_cons, List.append_assoc, List.singleton_append,
        List.splitOn_append_cons_self, hi (List.cons_ne_nil _ _)]
      rfl

end DocStore.Text
