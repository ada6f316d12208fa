import DocStore.Proofs.Entries
import Mathlib.Data.List.Basic

namespace DocStore.Entries

variable {κ α : Type} [BEq κ] {d : Entries κ α} {k k' : κ}

theorem get?_congr [PartialEquivBEq κ] (h : (k == k') = true) : d.get? k = d.get? k' := by
  induction d
  case nil => rfl
  case cons e d hi => rw [get?, get?, BEq.congr_left h, hi]

theorem exists_mem_of_get? {v : α} (h : d.get? k = some v) :
    ∃ e ∈ d, (k == e.1) = true ∧ e.2 = v := by
  induction d
  case nil => cases h
  case cons e d hi =>
    cases hk : k == e.1
    case true => exact ⟨e, .head _, hk, by simpa [get?, hk] using h⟩
    case false =>
      obtain ⟨e', he, h⟩ := hi <| by simpa [get?, hk] using h
      exact ⟨e', .tail _ he, h⟩

theorem get?_erase_of_beq_false [PartialEquivBEq κ] (h : (k' == k) = false) :
    (d.erase k).get? k' = d.get? k' := by
  induction d
  case nil => rfl
  case cons e d hi =>
    rw [erase] at hi ⊢
    cases hk : k == e.1
    case true =>
      have hk' : (k' == e.1) = false := by rw [← BEq.congr_right hk, h]
      simp [get?, hk, hk', hi]
    case false => simp [get?, hk, hi]

theorem put_of_get?_eq_none (v : α) (h : d.get? k = none) : put k v d = d ++ [(k, v)] := by
  induction d
  case nil => rfl
  case cons e d hi =>
    cases hk : k == e.1
    case true => simp [get?, hk] at h
    case false => simpa [put, hk] using hi <| by simpa [get?, hk] using h

theorem not_mem_of_get?_eq_none [ReflBEq κ] (h : d.get? k = none) : k ∉ d.map Prod.fst := by
  induction d
  case nil => simp
  case cons e d hi =>
    cases hk : k == e.1
    case true => simp [get?, hk] at h
    case false =>
      have hn : k ≠ e.1 := by
        rintro rfl
        simp at hk
      have h := hi <| by simpa [get?, hk] using h
      simpa [hn] using h

theorem mem_of_mem_put [ReflBEq κ] {e : κ × α} {v : α} (h : e ∈ put k v d) :
    e ∈ d ∨ (k == e.1) = true ∧ e.2 = v := by
  induction d
  case nil =>
    rw [put, List.mem_singleton] at h
    simp [h]
  case cons e' d hi =>
    cases hk : k == e'.1
    case true =>
      simp only [put, hk, if_true, List.mem_cons] at h
      rcases h with rfl | h
      case inl => exact .inr ⟨hk, rfl⟩
      case inr => exact .inl <| .tail _ h
    case false =>
      simp only [put, hk, Bool.false_eq_true, if_false, List.mem_cons] at h
      rcases h with rfl | h
      case inl => exact .inl <| .head _
      case inr => exact (hi h).imp_left (.tail _)

theorem get?_update_of_beq_false [PartialEquivBEq κ] {entries : List (κ × α)}
    (h : ∀ e ∈ entries, (k == e.1) = false) : get? (update d entries) k = get? d k := by
  unfold update
  induction entries generalizing d
  case nil => rfl
  case cons e entries hi =>
    simp only [List.mem_cons, forall_eq_or_imp] at h
    rw [List.foldl_cons, hi h.right, get?_put_of_beq_false d e.2 h.left]

theorem get?_update [EquivBEq κ] (d : Entries κ α) (entries : List (κ × α)) (k : κ) :
    get? (update d entries) k = get? d k ∨ ∃ e ∈ entries, get? (update d entries) k = some e.2 := by
  unfold update
  induction entries generalizing d
  case nil => exact .inl rfl
  case cons e entries hi =>
    rw [List.foldl_cons]
    rcases hi (put e.1 e.2 d) with h | ⟨e', he, h⟩
    case inr => exact .inr ⟨e', .tail _ he, h⟩
    case inl =>
      cases hk : k == e.1
      case true =>
        have hp : get? (put e.1 e.2 d) k = some e.2 := by rw [get?_congr hk, get?_put_self]
        exact .inr ⟨e, .head _, h.trans hp⟩
      case false => exact .inl <| h.trans <| get?_put_of_beq_false d e.2 hk

theorem has_put_self [ReflBEq κ] (d : Entries κ α) (k : κ) (v : α) : has (put k v d) k = true := by
  rw [has, get?_put_self]
  rfl

theorem put_put_self [ReflBEq κ] (d : Entries κ α) (k : κ) (v : α) :
    put k v (put k v d) = put k v d :=
  put_of_get? <| get?_put_self d k v

theorem erase_erase_self (d : Entries κ α) (k : κ) : (d.erase k).erase k = d.erase k :=
  erase_of_get? <| get?_erase_self d k

section

variable [EquivBEq κ] {entries : List (κ × α)}
  (h : entries.Pairwise fun e e' => (e.1 == e'.1) = false)
include h

-- Where keys are told apart, no entry is written over.
theorem get?_update_of_mem {e : κ × α} (he : e ∈ entries) (d : Entries κ α) :
    get? (update d entries) e.1 = some e.2 := by
  unfold update
  induction h generalizing d
  case nil => cases he
  case cons e' entries hn _ hi =>
    rw [List.foldl_cons]
    cases he
    case head => exact (get?_update_of_beq_false hn).trans <| get?_put_self d e.1 e.2
    case tail he => exact hi he _

theorem update_update_self (d : Entries κ α) :
    update (update d entries) entries = update d entries :=
  update_of_get? fun _ he => get?_update_of_mem h he d

end

theorem erase_erase (d : Entries κ α) (k k' : κ) : (d.erase k).erase k' = (d.erase k').erase k := by
  simp [erase, List.filter_filter, Bool.and_comm]

section

variable [PartialEquivBEq κ] (h : (k == k') = false)
include h

theorem put_put_perm (d : Entries κ α) (v v' : α) :
    (put k v (put k' v' d)).Perm (put k' v' (put k v d)) := by
  have h' : (k' == k) = false := by rw [BEq.comm, h]
  induction d
  case nil => simpa [put, h, h'] using .swap ..
  case cons e d hi =>
    cases hk : k == e.1 <;> cases hk' : k' == e.1
    case true.true => cases h.symm.trans <| BEq.trans hk (BEq.symm hk')
    all_goals simp [put, *]

theorem put_erase (d : Entries κ α) (v : α) : put k v (d.erase k') = (put k v d).erase k' := by
  have h' : (k' == k) = false := by rw [BEq.comm, h]
  induction d
  case nil => simp [erase, put, h']
  case cons e d hi =>
    rw [erase] at hi ⊢
    cases hk : k == e.1 <;> cases hk' : k' == e.1
    case true.true => cases h.symm.trans <| BEq.trans hk (BEq.symm hk')
    all_goals simp_all [put, erase]

end

-- What is under a key gives way to what a function makes of it; if that is nothing, it is erased.
def alter (k : κ) (f : Option α → Option α) (d : Entries κ α) : Entries κ α :=
  match f (d.get? k) with
  | some v => put k v d
  | none => d.erase k

theorem alter_of_eq {f : Option α → Option α} (h : f (d.get? k) = d.get? k) : d.alter k f = d := by
  rw [alter, h]
  split
  case h_1 hv => exact put_of_get? hv
  case h_2 hn => exact erase_of_get? hn

theorem get?_alter [EquivBEq κ] (f : Option α → Option α) (d : Entries κ α) (k k' : κ) :
    (d.alter k f).get? k' = if k' == k then f (d.get? k) else d.get? k' := by
  cases h : k' == k
  case true =>
    rw [get?_congr h, if_pos rfl, alter]
    split
    case h_1 hv => rw [get?_put_self, hv]
    case h_2 hn => rw [get?_erase_self, hn]
  case false =>
    rw [if_neg (by simp), alter]
    split
    case h_1 => exact get?_put_of_beq_false d _ h
    case h_2 => exact get?_erase_of_beq_false h

theorem nodup_alter [ReflBEq κ] (f : Option α → Option α) (h : (d.map Prod.fst).Nodup) :
    ((d.alter k f).map Prod.fst).Nodup := by
  unfold alter
  split
  case h_1 v _ =>
    cases hk : d.get? k
    case none =>
      rw [put_of_get?_eq_none v hk, List.map_append, List.nodup_append]
      refine ⟨h, by simp, ?_⟩
      rintro key hm _ hk'
      rw [List.map_singleton, List.mem_singleton] at hk'
      exact hk' ▸ ne_of_mem_of_not_mem hm (not_mem_of_get?_eq_none hk)
    case some =>
      rwa [keys_put_of_has v (by simp [has, hk])]
  case h_2 => exact h.sublist <| List.filter_sublist.map _

theorem mem_alter [ReflBEq κ] {f : Option α → Option α} {e : κ × α} (h : e ∈ d.alter k f) :
    e ∈ d ∨ (k == e.1) = true ∧ f (d.get? k) = some e.2 := by
  unfold alter at h
  split at h
  case h_1 hv => exact (mem_of_mem_put h).imp_right fun ⟨hk, he⟩ => ⟨hk, he ▸ hv⟩
  case h_2 => exact .inl (List.mem_filter.mp h).left

-- Changes at two keys come to the same entries in either order.
theorem alter_alter_perm [EquivBEq κ] (h : (k == k') = false) (f g : Option α → Option α)
    (d : Entries κ α) : ((d.alter k f).alter k' g).Perm ((d.alter k' g).alter k f) := by
  have h' : (k' == k) = false := by rw [BEq.comm, h]
  have hg : (d.alter k f).get? k' = d.get? k' := by rw [get?_alter, if_neg (by simp [h'])]
  have hf : (d.alter k' g).get? k = d.get? k := by rw [get?_alter, if_neg (by simp [h])]
  rw [alter, hg, alter.eq_1 k f (d.alter k' g), hf, alter, alter]
  cases f (d.get? k) <;> cases g (d.get? k')
  case none.none => exact .of_eq <| erase_erase d k k'
  case none.some => exact .of_eq <| put_erase h' d _
  case some.none => exact .of_eq <| (put_erase h d _).symm
  case some.some => exact put_put_perm h' ..

end DocStore.Entries
