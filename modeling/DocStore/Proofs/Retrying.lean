import DocStore.Proofs.Client.Lifecycle
import DocStore.Proofs.Scanning

namespace DocStore

theorem Record.pairwise_document {r : Record} (h : (r.map Prod.fst).Nodup) :
    r.document.Pairwise fun e e' => (e.1 == e'.1) = false := by
  rw [document, List.pairwise_map]
  exact (List.pairwise_map.mp h).imp fun hn => (key_beq ..).trans <| beq_false_of_ne hn

namespace Service

open Mutation KeyedStore

def IsRepeated (kind : MutationKind) (first second : Except Halt Unit) : Prop :=
  if kind = .create .create then ∃ id, second = .error (.refused (.alreadyExists id))
  else second = first

-- A record that was filed, or found its place taken, leaves nothing to file.
theorem create_again {r : Record} {key : JsonText} (h : r.get? "_id" = some key) (mode : CreateMode)
    (documents : Documents) :
    ∃ result, create mode (.object r.members) (create mode (.object r.members) documents).1 =
        ((create mode (.object r.members) documents).1, result) ∧
      IsRepeated (.create mode) (create mode (.object r.members) documents).2 result := by
  have hh := Entries.has_put_self documents (.text key) r.document
  have hp := Entries.put_put_self documents (.text key) r.document
  simp only [create_members h]
  cases mode <;> cases hd : documents.has (.text key)
  case create.true =>
    exact ⟨.error (.refused (.alreadyExists (.text key))), by simp [hd, halted], _, rfl⟩
  case create.false =>
    exact ⟨.error (.refused (.alreadyExists (.text key))), by simp [hh, halted], _, rfl⟩
  case createOrReplace.true => exact ⟨_, by simp [hp], rfl⟩
  case createOrReplace.false => exact ⟨_, by simp [hp], rfl⟩
  case createIfNotExists.true => exact ⟨_, by simp [hd], rfl⟩
  case createIfNotExists.false => exact ⟨_, by simp [hh], rfl⟩

theorem IsRepeated.status {kind : MutationKind} {first second : Except Halt Unit}
    {status status' : Status} (h : IsRepeated kind first second) (hm : Means first status)
    (hm' : Means second status') : status' = if kind = .create .create then .error else status := by
  unfold IsRepeated at h
  split at h
  case isTrue hk =>
    obtain ⟨id, rfl⟩ := h
    rw [if_pos hk]
    exact hm'.unique <| means_alreadyExists id
  case isFalse hk =>
    rw [if_neg hk]
    exact hm'.unique <| h ▸ hm

section

variable (type id : String) {fields : Record}

theorem patch_again (hf : (fields.map Prod.fst).Nodup) (documents : Documents) :
    let attempt := patch (.object (payloadOf .patch type id fields.members))
    attempt (attempt documents).1 = attempt documents := by
  dsimp only
  cases hd : documents.get? (.text id)
  case none => simp [patch_payload, hd, halted]
  case some d =>
    have hu := Entries.update_update_self (Record.pairwise_document hf) d
    simp only [patch_payload, hd, Entries.get?_put_self, hu, Entries.put_put_self]

theorem delete_again (fields : Record) (documents : Documents) :
    let attempt := delete (.object (payloadOf .delete type id fields.members))
    attempt (attempt documents).1 = attempt documents := by
  simp only [delete_payload, Entries.erase_erase_self]

end

end Service

namespace Edit

open Service (IsRepeated)

theorem applied_again (m : Edit) {fields : Record} (hf : (fields.map Prod.fst).Nodup)
    (hu : fields.IsUnpaired) (documents : Documents) :
    ∃ result, m.applied fields (m.applied fields documents).1 =
        ((m.applied fields documents).1, result) ∧
      IsRepeated m.kind (m.applied fields documents).2 result := by
  obtain ⟨kind, type, key, _⟩ := m
  simp only [applied, payloadWith, Service.applyKind_name]
  cases kind
  case create mode =>
    obtain ⟨id, hi⟩ := (KeyedStore.isDocument_record type key hu).id
    rw [Mutation.payloadOf_create]
    exact Service.create_again hi mode documents
  case patch => exact ⟨_, Service.patch_again type key hf documents, rfl⟩
  case delete => exact ⟨_, Service.delete_again type key fields documents, rfl⟩

end Edit

open Client (librarian catalogue)

namespace Bench

-- A mutation that is made a second time, with nothing in between, leaves the documents as they are.
-- It has the same status again, but for documents that are to be created: these are there by then.
theorem runCall_again (c : Client) (s : Service) (call : Call) (m : Edit)
    (hc : c.IsPlain s.token) (hq : s.queue = []) (hm : call.edit? c.mode = some m)
    (hv : ∀ e ∈ m.values, e.2.IsReadable) :
    ∃ first second log log' s' s'',
      runCall c s call = (.call (.ok (some first)) log .nothing, c, s') ∧
      runCall c s' call = (.call (.ok (some second)) log' .nothing, c, s'') ∧
      s''.documents = s'.documents ∧
      second = if m.kind = .create .create then .error else first := by
  have ⟨fields, ht⟩ := Edit.texts_of_readable hv
  have hr := Client.ready_of_isPlain hc
  obtain ⟨⟨_, log, s'⟩, ho, hf⟩ := runCall_of_edit? hm s
  obtain ⟨r, first, hs, rfl, rfl⟩ := Client.change_of_ready ho hr hq ht
  obtain ⟨⟨_, log', s''⟩, ho', hf'⟩ := runCall_of_edit? hm
    { s with
      record    := s.record ++ [r]
      documents := (m.applied (Entries.ofList fields) s.documents).1 }
  obtain ⟨r', second, hs', rfl, rfl⟩ := Client.change_of_ready ho' hr hq ht
  have ⟨result, ha, hi⟩ := m.applied_again (Entries.nodup_ofList fields)
    (Edit.isUnpaired_ofList_texts ht) s.documents
  rw [ha] at hs'
  exact ⟨first, second, log, log', _, _, hf, hf', by rw [ha], hi.status hs hs'⟩

def shelving : Call :=
  .insert "t" "9" [("x", .bytes [0xC3, 0xA9]), ("_type", .text "u")]

theorem runCall_again_shelving :
    librarian.start.1.IsPlain catalogue.token ∧ catalogue.queue = [] ∧
    ∃ m, shelving.edit? librarian.start.1.mode = some m ∧ (∀ e ∈ m.values, e.2.IsReadable) ∧
      ∃ first log log' s' s'',
        runCall librarian.start.1 catalogue shelving =
          (.call (.ok (some first)) log .nothing, librarian.start.1, s') ∧
        runCall librarian.start.1 s' shelving =
          (.call (.ok (some .error)) log' .nothing, librarian.start.1, s'') ∧
        s''.documents = s'.documents := by
  have hm : librarian.start.1.mode = .create := by decide +kernel
  have hv : ∀ e ∈ [("x", FieldInput.bytes [0xC3, 0xA9]), ("_type", .text "u")],
      e.2.IsReadable := by
    simp only [List.forall_mem_cons]
    exact ⟨⟨['é'], by decide⟩, trivial, by simp⟩
  obtain ⟨first, _, log, log', s', s'', hf, hs, hd, rfl⟩ :=
    runCall_again librarian.start.1 catalogue shelving _ Client.isPlain_librarian rfl rfl hv
  rw [hm, if_pos rfl] at hs
  exact ⟨Client.isPlain_librarian, rfl, _, rfl, hv, first, log, log', s', s'', hf, hs, hd⟩

end Bench

end DocStore
