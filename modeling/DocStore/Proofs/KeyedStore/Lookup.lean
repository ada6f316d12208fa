import DocStore.Proofs.KeyedStore.Ids
import DocStore.Proofs.Query.Fields

namespace DocStore.KeyedStore

-- Each key is there once, and is the id of its record.
structure IsKeyed (s : KeyedStore) : Prop where
  documents : s.AreDocuments
  nodup     : (s.map Prod.fst).Nodup
  id        : ∀ e ∈ s, e.2.get? "_id" = some e.1

theorem isKeyed_nil : IsKeyed [] where
  documents := by simp [AreDocuments]
  nodup     := by simp
  id        := by simp

-- Where no id has been moved, each is its key.
theorem isKeyed_iff_isTracked {s : KeyedStore} : s.IsKeyed ↔ s.IsTracked fun _ _ => False where
  mp hs := ⟨hs.documents, hs.nodup, fun e he id hi =>
    .inl <| Option.some.inj <| hi.symm.trans <| hs.id e he⟩
  mpr hs := by
    refine ⟨hs.documents, hs.nodup, fun e he => ?_⟩
    have ⟨id, hi⟩ := (hs.documents e he).id
    rw [hi, (hs.id e he id hi).resolve_right not_false]

theorem isKeyed_mutate {s : KeyedStore} (hs : s.IsKeyed) (kind : MutationKind) (table key : String)
    {fields : Record} (hf : fields.IsUnpaired) (h : "_id" ∉ fields.map Prod.fst) :
    (s.mutate kind table key fields).2.IsKeyed := by
  refine isKeyed_iff_isTracked.mpr ?_
  refine isTracked_mutate (isKeyed_iff_isTracked.mp hs) kind table key hf fun _ _ hi => ?_
  exact h <| List.mem_map_of_mem hi

-- Where no field takes the place of the id or the type, a record is made of them and the fields.
theorem record_eq_cons (table key : String) {fields : Record} (hi : "_id" ∉ fields.map Prod.fst)
    (ht : "_type" ∉ fields.map Prod.fst) (hn : (fields.map Prod.fst).Nodup) :
    record table key fields = ("_id", .plain key) :: ("_type", .plain table) :: fields := by
  have hr :
      ((("_id", JsonText.plain key) :: ("_type", .plain table) :: fields).map Prod.fst).Nodup :=
    List.nodup_cons.mpr ⟨by simpa using hi, List.nodup_cons.mpr ⟨ht, hn⟩⟩
  exact Entries.ofList_of_nodup hr

theorem mutate_create (mode : CreateMode) (table key : String) {fields : Record}
    (hi : "_id" ∉ fields.map Prod.fst) (ht : "_type" ∉ fields.map Prod.fst)
    (hn : (fields.map Prod.fst).Nodup) (s : KeyedStore) :
    s.mutate (.create mode) table key fields = s.insert mode table key fields := by
  rw [mutate, record_eq_cons table key hi ht hn]
  rfl

theorem filter_key {s : KeyedStore} (hs : (s.map Prod.fst).Nodup) (table key : String) :
    (s.filter fun e => e.2.get? "_type" = some (.plain table) ∧ e.1 = .plain key).map Prod.snd =
      (s.find? table key).toList := by
  induction s
  case nil => rfl
  case cons e s hi =>
    rw [List.map_cons, List.nodup_cons] at hs
    by_cases hk : e.1 = .plain key
    case pos =>
      have hr : ∀ key' r, (key', r) ∈ s → Entries.get? r "_type" = some (.plain table) →
          ¬key' = .plain key := by
        intro key' r hm _ he
        exact hs.left <| List.mem_map.mpr ⟨_, hm, he.trans hk.symm⟩
      by_cases ht : e.2.get? "_type" = some (.plain table) <;>
        simpa [find?, Entries.get?, hk, ht, Option.filter_some] using hr
    case neg =>
      have hk' : (JsonText.plain key == e.1) = false := beq_eq_false_iff_ne.mpr (Ne.symm hk)
      simpa [find?, Entries.get?, hk, hk'] using hi hs.right

theorem withId_eq_find? {s : KeyedStore} (hs : s.IsKeyed) (table key : String) :
    s.withId table key = (s.find? table key).toList := by
  rw [← filter_key hs.nodup, withId, List.filter_map]
  refine congrArg _ <| List.filter_congr fun e he => ?_
  simp [hs.id e he]

section

variable (s : KeyedStore) (q : Selection)

theorem rows_equal (hc : q.comparison = .equal) :
    q.rows none (s.map Prod.snd) = (s.withId q.typeText q.idText).map q.shapeRecord := by
  have ht : q.takes = fun r => decide
      (r.get? "_type" = some (.plain q.typeText) ∧ r.get? "_id" = some (.plain q.idText)) := by
    funext r
    rw [Selection.takes, hc, Bool.decide_and]
    cases r.get? "_id" <;> simp [Comparison.admits]
  simp only [Selection.rows, hc, ht, withId]

theorem rows_atLeast (hc : q.comparison = .atLeast) (n : Nat) :
    q.rows (some n) (s.map Prod.snd) = (s.range q.typeText q.idText n).map q.shapeRecord := by
  have ht : q.takes = fun r =>
      decide (r.get? "_type" = some (.plain q.typeText) ∧
        ∃ id ∈ r.get? "_id", .plain q.idText ≤ id) := by
    funext r
    rw [Selection.takes, hc, Bool.decide_and]
    cases r.get? "_id" <;> simp [Comparison.admits]
  simp only [Selection.rows, hc, ht, range]
  rfl

end

end DocStore.KeyedStore
