import DocStore.Entries

namespace DocStore.Entries

variable {κ α : Type} [BEq κ]

theorem put_of_get? {d : Entries κ α} {k : κ} {v : α} (h : d.get? k = some v) : put k v d = d := by
  induction d
  case nil => cases h
  case cons e d hi =>
    cases hk : k == e.1
    case true =>
      have h : e.2 = v := by simpa [get?, hk] using h
      simp [put, hk, ← h]
    case false => simpa [put, hk] using hi <| by simpa [get?, hk] using h

theorem update_of_get? {d : Entries κ α} {entries : List (κ × α)}
    (h : ∀ e ∈ entries, d.get? e.1 = some e.2) : update d entries = d := by
  unfold update
  induction entries
  case nil => rfl
  case cons e entries hi =>
    rw [List.forall_mem_cons] at h
    rw [List.foldl_cons, put_of_get? h.left, hi h.right]

theorem erase_of_get? {d : Entries κ α} {k : κ} (h : d.get? k = none) : d.erase k = d := by
  induction d
  case nil => rfl
  case cons e d hi =>
    cases hk : k == e.1
    case true => simp [get?, hk] at h
    case false =>
      have h := hi <| by simpa [get?, hk] using h
      rw [erase] at h
      simp [erase, hk, h]

section

variable [LawfulBEq κ] {d : Entries κ α} {k k' : κ}

theorem get?_eq_none_iff : d.get? k = none ↔ k ∉ d.map Prod.fst := by
  induction d
  case nil => simp [get?]
  case cons e d hi => by_cases h : k = e.1 <;> simp [get?, h, hi]

theorem mem_of_get?_eq_some {v : α} (h : d.get? k = some v) : (k, v) ∈ d := by
  induction d
  case nil => simp [get?] at h
  case cons e d hi =>
    by_cases hk : k = e.1
    case pos =>
      simp only [get?, hk, BEq.rfl, if_true, Option.some.injEq] at h
      simp [hk, ← h]
    case neg => exact .tail _ <| hi <| by simpa [get?, hk] using h

theorem get?_put_of_ne (d : Entries κ α) (v : α) (h : k' ≠ k) :
    get? (put k v d) k' = get? d k' :=
  get?_put_of_beq_false d v (by simpa using h)

theorem put_of_not_mem (v : α) (h : k ∉ d.map Prod.fst) : put k v d = d ++ [(k, v)] := by
  induction d
  case nil => rfl
  case cons e d hi =>
    simp only [List.map_cons, List.mem_cons, not_or] at h
    simp [put, h.left, hi h.right]

theorem mem_put {e : κ × α} {v : α} (h : e ∈ put k v d) : e = (k, v) ∨ e ∈ d := by
  induction d
  case nil => simpa [put] using h
  case cons e' d hi =>
    by_cases hk : k = e'.1
    case pos =>
      simp only [put, hk, BEq.rfl, if_true, List.mem_cons] at h
      rcases h with rfl | h
      · exact .inl <| by simp [hk]
      · exact .inr <| .tail _ h
    case neg =>
      simp only [put, beq_eq_false_iff_ne.mpr hk, Bool.false_eq_true, if_false, List.mem_cons] at h
      rcases h with rfl | h
      · exact .inr <| .head _
      · rcases hi h with h | h
        · exact .inl h
        · exact .inr <| .tail _ h

theorem mem_update {e : κ × α} {entries : List (κ × α)} (h : e ∈ update d entries) :
    e ∈ d ∨ e ∈ entries := by
  unfold update at h
  induction entries generalizing d
  case nil => exact .inl h
  case cons e' entries hi =>
    rcases hi h with h | h
    case inl =>
      rcases mem_put h with rfl | h
      case inl => exact .inr <| .head _
      case inr => exact .inl h
    case inr => exact .inr <| .tail _ h

-- What is found after writing was written, or was there.
theorem get?_update_eq_some {v : α} {entries : List (κ × α)}
    (h : get? (update d entries) k = some v) : get? d k = some v ∨ (k, v) ∈ entries := by
  unfold update at h
  induction entries generalizing d
  case nil => exact .inl h
  case cons e entries hi =>
    rcases hi h with h | h
    case inl =>
      by_cases hk : k = e.1
      case pos =>
        rw [hk, get?_put_self, Option.some.injEq] at h
        exact .inr <| by simp [hk, ← h]
      case neg => exact .inl <| get?_put_of_ne d e.2 hk ▸ h
    case inr => exact .inr <| .tail _ h

theorem get?_of_mem {v : α} (hn : (d.map Prod.fst).Nodup) (h : (k, v) ∈ d) : d.get? k = some v := by
  induction d
  case nil => cases h
  case cons e d hi =>
    rw [List.map_cons, List.nodup_cons] at hn
    rcases List.mem_cons.mp h with rfl | h
    case inl => simp [get?]
    case inr =>
      have hk : k ≠ e.1 := ne_of_mem_of_not_mem (List.mem_map_of_mem h) hn.left
      rw [get?, if_neg (by simpa using hk), hi hn.right h]

theorem nodup_put (v : α) (h : (d.map Prod.fst).Nodup) : ((put k v d).map Prod.fst).Nodup := by
  by_cases hk : k ∈ d.map Prod.fst
  case pos =>
    have hh : has d k = true := by
      cases hg : d.get? k
      case none => exact absurd hk <| get?_eq_none_iff.mp hg
      case some => simp [has, hg]
    rwa [keys_put_of_has v hh]
  case neg =>
    rw [put_of_not_mem v hk, List.map_append, List.nodup_append]
    refine ⟨h, by simp, ?_⟩
    intro a ha b hb
    have hb : b = k := by simpa using hb
    exact hb ▸ ne_of_mem_of_not_mem ha hk

theorem nodup_update {entries : List (κ × α)} (h : (d.map Prod.fst).Nodup) :
    ((update d entries).map Prod.fst).Nodup := by
  unfold update
  induction entries generalizing d
  case nil => exact h
  case cons e entries hi => exact hi <| nodup_put e.2 h

theorem nodup_ofList (entries : List (κ × α)) : ((ofList entries).map Prod.fst).Nodup :=
  nodup_update (by simp)

-- The last value that is written under a key is the one that is found there.
theorem get?_update_eq (d : Entries κ α) (entries : List (κ × α)) (k : κ) :
    get? (update d entries) k = (entries.reverse.lookup k).or (get? d k) := by
  unfold update
  induction entries generalizing d
  case nil => rfl
  case cons e entries hi =>
    rw [List.foldl_cons, hi, List.reverse_cons, List.lookup_append, Option.or_assoc,
      List.lookup_cons]
    by_cases hk : k = e.1
    case pos => simp [hk, get?_put_self]
    case neg => simp [beq_false_of_ne hk, get?_put_of_ne _ _ hk]

theorem get?_update_of_not_mem {entries : List (κ × α)} (h : k ∉ entries.map Prod.fst) :
    get? (update d entries) k = get? d k := by
  unfold update
  induction entries generalizing d
  case nil => rfl
  case cons e entries hi =>
    simp only [List.map_cons, List.mem_cons, not_or] at h
    rw [List.foldl_cons, hi h.right, get?_put_of_ne _ _ h.left]

theorem not_mem_ofList {entries : List (κ × α)} (h : k ∉ entries.map Prod.fst) :
    k ∉ (ofList entries).map Prod.fst :=
  get?_eq_none_iff.mp <| get?_update_of_not_mem h

theorem has_update {entries : List (κ × α)} (h : has d k = true) :
    has (update d entries) k = true := by
  unfold update
  induction entries generalizing d
  case nil => exact h
  case cons e entries hi =>
    rw [List.foldl_cons]
    apply hi
    by_cases hk : k = e.1
    case pos => simp [has, hk, get?_put_self]
    case neg => rwa [has, get?_put_of_ne _ _ hk]

theorem ofList_of_nodup {entries : List (κ × α)} (h : (entries.map Prod.fst).Nodup) :
    ofList entries = entries := by
  suffices ∀ d : Entries κ α, (∀ k ∈ entries.map Prod.fst, k ∉ d.map Prod.fst) →
      update d entries = d ++ entries from this [] (by simp)
  unfold update
  induction entries
  case nil => simp
  case cons e entries hi =>
    intro d hd
    simp only [List.map_cons, List.nodup_cons, List.mem_cons, forall_eq_or_imp] at h hd
    have hd' : ∀ k ∈ entries.map Prod.fst, k ∉ (d ++ [e]).map Prod.fst := by
      intro k hk
      simpa [hd.right k hk] using ne_of_mem_of_not_mem hk h.left
    rw [List.foldl_cons, put_of_not_mem _ hd.left, hi h.right _ hd']
    simp

theorem lookup_reverse (h : (d.map Prod.fst).Nodup) (k : κ) : d.reverse.lookup k = d.get? k := by
  have hu := get?_update_eq [] d k
  rw [← ofList, ofList_of_nodup h] at hu
  rw [hu, get?, Option.or_none]

-- Of the entries that names give, each name has what it gives.
theorem get?_ofList_filterMap {key : String → κ} (hk : ∀ a b, key a = key b → a = b)
    (f : String → Option α) (names : List String) (name : String) :
    get? (ofList <| names.filterMap fun name => (f name).map (key name, ·)) (key name) =
      if name ∈ names then f name else none := by
  suffices ∀ d : Entries κ α,
      get? (update d <| names.filterMap fun name => (f name).map (key name, ·)) (key name) =
        if name ∈ names then (f name).or (d.get? (key name)) else d.get? (key name) by
    rw [ofList, this]
    simp [get?]
  induction names
  case nil => simp
  case cons next names hi =>
    intro d
    cases hn : f next
    case none =>
      rw [List.filterMap_cons_none (by simp [hn]), hi]
      by_cases he : name = next <;> simp [he, hn]
    case some v =>
      have hu (rest : List (κ × α)) :
          update d ((key next, v) :: rest) = update (put (key next) v d) rest := rfl
      rw [List.filterMap_cons_some (by simp [hn]; rfl), hu, hi]
      by_cases he : name = next
      case pos => simp [he, hn, get?_put_self]
      case neg => simp [he, get?_put_of_ne d v fun h => he (hk _ _ h)]

end

section

variable {κ' β : Type} [BEq κ'] {f : κ → κ'} (g : α → β) (hf : ∀ a b, (f a == f b) = (a == b))
include hf

theorem get?_map (d : Entries κ α) (k : κ) :
    get? (d.map (Prod.map f g)) (f k) = (get? d k).map g := by
  induction d
  case nil => rfl
  case cons e d hi => cases h : k == e.1 <;> simp [get?, hf, h, hi]

theorem has_map (d : Entries κ α) (k : κ) : has (d.map (Prod.map f g)) (f k) = has d k := by
  simp [has, get?_map g hf]

theorem put_map (d : Entries κ α) (k : κ) (v : α) :
    put (f k) (g v) (d.map (Prod.map f g)) = (put k v d).map (Prod.map f g) := by
  induction d
  case nil => rfl
  case cons e d hi => cases h : k == e.1 <;> simp [put, hf, h, hi, Prod.map]

theorem erase_map (d : Entries κ α) (k : κ) :
    erase (d.map (Prod.map f g)) (f k) = (erase d k).map (Prod.map f g) := by
  induction d
  case nil => rfl
  case cons e d hi =>
    rw [erase] at hi ⊢
    cases h : k == e.1 <;> simp [erase, hf, h] <;> simpa [erase] using hi

theorem update_map (d : Entries κ α) (entries : List (κ × α)) :
    update (d.map (Prod.map f g)) (entries.map (Prod.map f g)) =
      (update d entries).map (Prod.map f g) := by
  unfold update
  induction entries generalizing d
  case nil => rfl
  case cons e entries hi => simp [put_map g hf, hi]

theorem ofList_map (entries : List (κ × α)) :
    ofList (entries.map (Prod.map f g)) = (ofList entries).map (Prod.map f g) :=
  update_map g hf [] entries

end

end DocStore.Entries
