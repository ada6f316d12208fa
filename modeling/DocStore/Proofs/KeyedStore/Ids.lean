import DocStore.Proofs.KeyedStore

namespace DocStore.KeyedStore

-- Each key is there once, and each id is its key or has been moved from there.
structure IsTracked (moved : JsonText → JsonText → Prop) (s : KeyedStore) : Prop where
  documents : s.AreDocuments
  nodup     : (s.map Prod.fst).Nodup
  id        : ∀ e ∈ s, ∀ id, e.2.get? "_id" = some id → id = e.1 ∨ moved e.1 id

section

variable {moved : JsonText → JsonText → Prop} {s : KeyedStore}

theorem isTracked_nil : IsTracked moved [] where
  documents := by simp [AreDocuments]
  nodup := by simp
  id := by simp

theorem isTracked_put (hs : s.IsTracked moved) {key : JsonText} {r : Record} (hr : r.IsDocument)
    (hk : ∀ id, r.get? "_id" = some id → id = key ∨ moved key id) :
    IsTracked moved (s.put key r) where
  documents := areDocuments_put hs.documents key hr
  nodup := Entries.nodup_put r hs.nodup
  id := by
    intro e he
    rcases Entries.mem_put he with rfl | he
    case inl => exact hk
    case inr => exact hs.id e he

theorem isTracked_file (hs : s.IsTracked moved) (mode : CreateMode) {key : JsonText} {r : Record}
    (hr : r.IsDocument) (hk : r.get? "_id" = some key) :
    IsTracked moved (s.file mode key r).2 := by
  unfold file
  split
  case h_1 => exact hs
  case h_2 => exact hs
  case h_3 => exact isTracked_put hs hr fun id h => .inl <| Option.some.inj <| h.symm.trans hk

theorem isTracked_merge (hs : s.IsTracked moved) (key : JsonText) {fields : Record}
    (hf : fields.IsUnpaired) (hm : ∀ id, ("_id", id) ∈ fields → moved key id) :
    IsTracked moved (s.merge key fields).2 := by
  unfold merge
  split
  case h_1 => exact hs
  case h_2 r hr =>
    have he := Entries.mem_of_get?_eq_some hr
    refine isTracked_put hs (isDocument_update (hs.documents _ he) hf) fun id hi => ?_
    rcases Entries.get?_update_eq_some hi with hi | hi
    case inl => exact hs.id _ he id hi
    case inr => exact .inr <| hm id hi

theorem isTracked_remove (hs : s.IsTracked moved) (key : JsonText) :
    IsTracked moved (s.remove key).2 where
  documents := areDocuments_remove hs.documents key
  nodup := hs.nodup.sublist <| List.filter_sublist.map _
  id := fun e he => hs.id e (List.mem_filter.mp he).left

-- Of all mutations, only a patch can move an id.
theorem isTracked_mutate (hs : s.IsTracked moved) (kind : MutationKind) (table key : String)
    {fields : Record} (hf : fields.IsUnpaired)
    (hm : kind = .patch → ∀ id, ("_id", id) ∈ fields → moved key id) :
    IsTracked moved (s.mutate kind table key fields).2 := by
  cases kind
  case create mode =>
    have hr := isDocument_record table key hf
    have ⟨id, hi⟩ := hr.id
    simp only [mutate, hi, Option.getD_some]
    exact isTracked_file hs mode hr hi
  case patch => exact isTracked_merge hs key hf <| hm rfl
  case delete => exact isTracked_remove hs key

end

end DocStore.KeyedStore
