import DocStore.Proofs.KeyedStore

namespace DocStore

namespace Mutation

theorem textual_fields {values : List (JsonText × FieldInput)} {fs : List (JsonText × Json)}
    (h : fields values = .ok fs) : ∀ e ∈ fs, ∃ t, e.2 = .text t := by
  induction values generalizing fs
  case nil =>
    cases h
    exact List.forall_mem_nil _
  case cons e values hi =>
    unfold fields at h
    split at h
    case h_1 => cases h
    case h_2 t _ =>
      cases hf : fields values <;> rw [hf] at h <;> cases h
      exact List.forall_mem_cons.mpr ⟨⟨t, rfl⟩, hi hf⟩

-- What texts alone are in can always be written and read.
theorem object_of_textual {fs : List (JsonText × Json)} (h : ∀ e ∈ fs, ∃ t, e.2 = .text t) :
    Json.areFloatFreeMembers fs = true ∧ Json.membersTooLong? fs = none ∧
      Json.membersDepth fs ≤ 0 := by
  rw [Json.areFloatFreeMembers_iff, Json.membersTooLong?_eq_none_iff, Json.membersDepth_le_iff]
  refine ⟨fun e he => ?_, fun e he => ?_, fun e he => ?_⟩
  all_goals
    obtain ⟨t, ht⟩ := h e he
    rw [ht]
    rfl

theorem flat_payload {m : Mutation} {payload : Entries JsonText Json}
    (h : m.payload = .ok payload) :
    Json.areFloatFreeMembers payload = true ∧ Json.membersTooLong? payload = none ∧
      Json.membersDepth payload ≤ 1 := by
  have ⟨kind, type, id, values⟩ := m
  rw [Mutation.payload] at h
  cases hf : fields values <;> simp only [hf, Except.map] at h <;> cases h
  case ok fs =>
    have ht : ∀ e ∈ Entries.ofList fs, ∃ t, e.2 = .text t := fun e he =>
      textual_fields hf e <| (Entries.mem_update he).resolve_left List.not_mem_nil
    cases kind
    case create mode =>
      have hp : ∀ e ∈ payloadOf (.create mode) type id (Entries.ofList fs), ∃ t, e.2 = .text t := by
        intro e he
        rcases Entries.mem_update he with he | he
        case inl => rcases List.mem_pair.mp he with rfl | rfl <;> exact ⟨_, rfl⟩
        case inr => exact ht e he
      have ⟨hf, hl, hd⟩ := object_of_textual hp
      exact ⟨hf, hl, Nat.le_succ_of_le hd⟩
    case patch =>
      have ⟨hf, hl, hd⟩ := object_of_textual ht
      simp only [payloadOf, Json.areFloatFreeMembers, Json.isFloatFree, hf, Json.membersTooLong?,
        Json.tooLong?, hl, Json.membersDepth, Json.depth]
      simp [hd]
    case delete => simp [payloadOf, Json.areFloatFreeMembers, Json.isFloatFree,
      Json.membersTooLong?, Json.tooLong?, Json.membersDepth, Json.depth]

-- There is always room for a body.
theorem flat_envelope {m : Mutation} {payload : Entries JsonText Json}
    (h : m.payload = .ok payload) (stack : Stack) :
    (envelope m.kind payload).isFloatFree = true ∧ (envelope m.kind payload).tooLong? = none ∧
      (envelope m.kind payload).depth ≤ stack.room := by
  have ⟨hf, hl, hd⟩ := flat_payload h
  have hs := stack.ample
  simp only [envelope, Json.isFloatFree, Json.areFloatFreeMembers, Json.areFloatFree, hf,
    Json.tooLong?, Json.membersTooLong?, Json.itemsTooLong?, hl, Json.depth, Json.membersDepth,
    Json.itemsDepth, Stack.room]
  simp only [Bool.and_self, Option.or_self, true_and]
  omega

theorem read_envelope {m : Mutation} {payload : Entries JsonText Json}
    (h : m.payload = .ok payload) (stack : Stack) :
    Json.read stack (envelope m.kind payload).compact = .ok (envelope m.kind payload).reread := by
  have ⟨hf, hl, hd⟩ := flat_envelope h stack
  exact Json.read_compact hf hd hl

end Mutation

-- A mutation of which all texts but the values are strings.
structure Edit where
  kind   : MutationKind
  type   : String
  id     : String
  values : List (String × FieldInput)

namespace Edit

def mutation (m : Edit) : Mutation :=
  ⟨m.kind, m.type, m.id, Mutation.named m.values⟩

-- The fields as they are stored, or what is wrong with the first value that is no text.
def texts : List (String × FieldInput) → Except Utf8.Error (List (String × JsonText))
  | [] => .ok []
  | (name, value) :: rest =>
    match value.toText with
    | .error e => .error e
    | .ok t => (texts rest).map ((name, t.paired) :: ·)

theorem texts_cons_eq_ok {e : String × FieldInput} {values : List (String × FieldInput)}
    {fields : List (String × JsonText)} (h : texts (e :: values) = .ok fields) :
    ∃ t rest, e.2.toText = .ok t ∧ texts values = .ok rest ∧ fields = (e.1, t.paired) :: rest := by
  unfold texts at h
  split at h
  case h_1 => cases h
  case h_2 t ht =>
    cases hr : texts values <;> rw [hr] at h <;> cases h
    exact ⟨t, _, ht, rfl, rfl⟩

theorem names_texts {values : List (String × FieldInput)} {fields : List (String × JsonText)}
    (h : texts values = .ok fields) : fields.map Prod.fst = values.map Prod.fst := by
  induction values generalizing fields
  case nil =>
    cases h
    rfl
  case cons e values hi =>
    obtain ⟨t, rest, _, ht, rfl⟩ := texts_cons_eq_ok h
    rw [List.map_cons, List.map_cons, hi ht]

theorem mem_texts {values : List (String × FieldInput)} {fields : List (String × JsonText)}
    {name : String} {s : JsonText} (h : texts values = .ok fields) (hm : (name, s) ∈ fields) :
    ∃ value t, (name, value) ∈ values ∧ value.toText = .ok t ∧ s = t.paired := by
  induction values generalizing fields
  case nil =>
    cases h
    cases hm
  case cons e values hi =>
    obtain ⟨t, rest, hs, ht, rfl⟩ := texts_cons_eq_ok h
    cases hm
    case head => exact ⟨_, t, .head _, hs, rfl⟩
    case tail hm =>
      have ⟨value, t, hv, hs⟩ := hi ht hm
      exact ⟨value, t, .tail _ hv, hs⟩

theorem not_mem_ofList_texts {values : List (String × FieldInput)}
    {fields : List (String × JsonText)} {name : String} (h : texts values = .ok fields)
    (hn : name ∉ values.map Prod.fst) : name ∉ (Entries.ofList fields).map Prod.fst :=
  Entries.not_mem_ofList <| names_texts h ▸ hn

theorem isUnpaired_ofList_texts {values : List (String × FieldInput)}
    {fields : List (String × JsonText)} (h : texts values = .ok fields) :
    Record.IsUnpaired (Entries.ofList fields) := by
  intro e he
  have ⟨_, t, _, _, ht⟩ := mem_texts h <| (Entries.mem_update he).resolve_left List.not_mem_nil
  exact ht ▸ t.isUnpaired_paired

-- The fields that are written, and what JSON makes of them.
theorem fields_cases (values : List (String × FieldInput)) :
    (∃ e, texts values = .error e ∧ Mutation.fields (Mutation.named values) = .error e) ∨
    ∃ raw : Record, texts values = .ok raw.paired ∧
      Mutation.fields (Mutation.named values) = .ok raw.members := by
  induction values
  case nil => exact .inr ⟨[], rfl, rfl⟩
  case cons e values hi =>
    have ⟨name, value⟩ := e
    cases ht : value.toText
    case error e =>
      exact .inl ⟨e, by simp [texts, ht], by simp [Mutation.named, Mutation.fields, ht]⟩
    case ok t =>
      have hn : Mutation.named ((name, value) :: values) =
          (.plain name, value) :: Mutation.named values := rfl
      rw [texts, hn, Mutation.fields, ht]
      rcases hi with ⟨e, he, hf⟩ | ⟨raw, hr, hf⟩
      case inl => exact .inl ⟨e, by rw [he]; rfl, by rw [hf]; rfl⟩
      case inr => exact .inr ⟨(name, t) :: raw, by rw [hr]; rfl, by rw [hf]; rfl⟩

def payloadWith (m : Edit) (fields : Record) : Entries JsonText Json :=
  Mutation.payloadOf m.kind m.type m.id fields.members

end Edit

namespace Mutation

theorem reread_envelope (kind : MutationKind) (payload : Entries JsonText Json) :
    (envelope kind payload).reread =
      .object [("mutations", .array [.object [(kind.name, (Json.object payload).reread)]])] := by
  simp [envelope, Json.reread, Json.rereadMembers, Json.rereadItems, Entries.ofList,
    Entries.update, Entries.put]

theorem payloadOf_create (mode : CreateMode) (type id : String) (fields : Record) :
    payloadOf (.create mode) type id fields.members = (KeyedStore.record type id fields).members :=
  Entries.update_map Json.text Record.plain_beq [("_id", .plain id), ("_type", .plain type)] fields

theorem reread_payloadOf (kind : MutationKind) (type id : String) {fields : Record}
    (h : (fields.map Prod.fst).Nodup) :
    (Json.object (payloadOf kind type id fields.members)).reread =
      .object (payloadOf kind type id fields.paired.members) := by
  cases kind
  case create mode =>
    have hn : ((KeyedStore.record type id fields).map Prod.fst).Nodup :=
      Entries.nodup_update (by simp)
    rw [payloadOf_create, payloadOf_create, Record.reread_members hn, KeyedStore.paired_record]
  case patch =>
    simp only [payloadOf, Json.reread, Json.rereadMembers, ← Record.reread_members h]
    simp [Entries.ofList, Entries.update, Entries.put]
  case delete =>
    simp [payloadOf, Json.reread, Json.rereadMembers, Entries.ofList, Entries.update, Entries.put]

end Mutation

namespace Edit

-- Either a value is no text, or the body is read as the mutation, with the fields that are stored.
theorem payload_cases (m : Edit) :
    (∃ e, texts m.values = .error e ∧ m.mutation.payload = .error e) ∨
    ∃ fields payload, texts m.values = .ok fields ∧ m.mutation.payload = .ok payload ∧
      ∀ stack, Json.read stack (Mutation.envelope m.kind payload).compact =
        .ok (Mutation.envelope m.kind (m.payloadWith (Entries.ofList fields))) := by
  rcases fields_cases m.values with ⟨e, he, hf⟩ | ⟨raw, hr, hf⟩
  case inl => exact .inl ⟨e, he, by rw [Mutation.payload, mutation, hf]; rfl⟩
  case inr =>
    have hl : Entries.ofList raw.members = Record.members (Entries.ofList raw) :=
      Entries.ofList_map Json.text Record.plain_beq raw
    have hp : m.mutation.payload = .ok (m.payloadWith (Entries.ofList raw)) := by
      rw [Mutation.payload, mutation, hf, Except.map, hl]
      rfl
    have hc : Record.paired (Entries.ofList raw) = Entries.ofList raw.paired :=
      (Entries.ofList_map JsonText.paired (fun _ _ => rfl) raw).symm
    refine .inr ⟨raw.paired, _, hr, hp, fun stack => ?_⟩
    have he := Mutation.reread_payloadOf m.kind m.type m.id (Entries.nodup_ofList raw)
    refine (Mutation.read_envelope hp stack).trans ?_
    rw [Mutation.reread_envelope, payloadWith, he, hc]
    rfl

theorem texts_of_payload_error {m : Edit} {e : Utf8.Error} (h : m.mutation.payload = .error e) :
    texts m.values = .error e := by
  rcases m.payload_cases with ⟨_, ht, hp⟩ | ⟨_, _, _, hp, _⟩
  case inl =>
    cases h.symm.trans hp
    exact ht
  case inr => cases h.symm.trans hp

theorem read_payload {m : Edit} {payload : Entries JsonText Json}
    (h : m.mutation.payload = .ok payload) :
    ∃ fields, texts m.values = .ok fields ∧
      ∀ stack, Json.read stack (Mutation.envelope m.kind payload).compact =
        .ok (Mutation.envelope m.kind (m.payloadWith (Entries.ofList fields))) := by
  rcases m.payload_cases with ⟨_, _, hp⟩ | ⟨fields, _, ht, hp, hr⟩
  case inl => cases h.symm.trans hp
  case inr =>
    cases h.symm.trans hp
    exact ⟨fields, ht, hr⟩

end Edit

end DocStore
