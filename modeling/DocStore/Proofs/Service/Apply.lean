import DocStore.Proofs.Mutation
import DocStore.Proofs.Text.Digit

namespace DocStore.Service

open KeyedStore Mutation

-- A text that is read is not empty, so it is sent.
theorem filter_of_read {stack : Stack} {body : String} {v : Json}
    (h : Json.read stack body = .ok v) :
    (some (Payload.text body)).filter (!·.isEmpty) = some (.text body) := by
  have hn : body ≠ "" := by
    rintro rfl
    cases h
  rw [Option.filter_some, if_pos (by simpa [Payload.isEmpty] using hn)]

theorem bodyJson_eq {stack : Stack} {r : Request} {body : String} {v : Json} (default : String)
    (hb : r.body = some (.text body)) (h : Json.read stack body = .ok v) :
    bodyJson stack r default = .ok v := by
  rw [bodyJson, Request.bodyText, hb]
  simp only [Option.getD_some, h]
  rfl

theorem itemsOf_envelope (kind : MutationKind) (payload : Entries JsonText Json) :
    itemsOf (envelope kind payload) = .ok [.object [(kind.name, .object payload)]] :=
  rfl

def answerOf (entry : Json) : Except Halt Unit → Except Fault Answer
  | .ok () => .ok (mutatedAnswer [entry])
  | .error (.refused refusal) => .ok (refused refusal)
  | .error (.fault fault) => .error fault

theorem answerMutate_envelope {stack : Stack} {r : Request} {kind : MutationKind}
    {payload : Entries JsonText Json}
    (h : bodyJson stack r "\x7b\x7d" = .ok (envelope kind payload)) (documents : Documents) :
    answerMutate stack r documents =
      ((applyKind kind.name (.object payload) documents).1,
        answerOf (entryOf kind.name (.object payload))
          (applyKind kind.name (.object payload) documents).2) := by
  rw [answerMutate, h]
  simp only [itemsOf_envelope, answerItems, applyItems, applyItem]
  rcases applyKind kind.name (.object payload) documents with ⟨documents', _ | _⟩
  case error halt => cases halt <;> rfl
  case ok => rfl

-- An answer that there is always room to write, with a code that can be logged.
structure Answer.IsBrief (a : Answer) : Prop where
  code    : Text.isOverlong a.code = false
  depth   : a.body.depth ≤ 4
  tooLong : a.body.tooLong? = none

theorem Answer.IsBrief.response {a : Answer} (h : a.IsBrief) (stack : Stack) :
    a.response stack = .ok ⟨a.code, a.body.spaced⟩ := by
  have hd : a.body.depth ≤ stack.room := by
    have := h.depth
    have := stack.ample
    rw [Stack.room]
    omega
  rw [Answer.response, Json.write_eq_ok .spaced hd h.tooLong]
  rfl

theorem isBrief_refused (refusal : Refusal) : (refused refusal).IsBrief where
  code    := Text.isOverlong_of_lt <| by cases refusal <;> simp [refused, Refusal.code]
  depth   := by simp [refused, errorBody, Json.depth, Json.membersDepth]
  tooLong := by simp [refused, errorBody, Json.tooLong?, Json.membersTooLong?]

theorem isBrief_unsupportedQuery (query : String) : (unsupportedQuery query).IsBrief where
  code    := Text.isOverlong_of_lt <| by simp [unsupportedQuery]
  depth   := by simp [unsupportedQuery, errorBody, Json.depth, Json.membersDepth]
  tooLong := by simp [unsupportedQuery, errorBody, Json.tooLong?, Json.membersTooLong?]

theorem isBrief_mutatedAnswer (key kind : JsonText) :
    (mutatedAnswer [.object [("id", .text key), ("operation", .text kind)]]).IsBrief where
  code    := Text.isOverlong_of_lt <| by simp [mutatedAnswer]
  depth   := by simp [mutatedAnswer, Json.depth, Json.membersDepth, Json.itemsDepth]
  tooLong := by simp [mutatedAnswer, Json.tooLong?, Json.membersTooLong?, Json.itemsTooLong?]

theorem entryOf_payloadOf (kind : MutationKind) (type id : String) (fields : Record) :
    ∃ key : JsonText, entryOf kind.name (.object (payloadOf kind type id fields.members)) =
      .object [("id", .text key), ("operation", .text kind.name)] := by
  cases kind
  case create mode =>
    have ⟨key, hk⟩ := exists_get?_record type id fields "_id" rfl
    refine ⟨key, ?_⟩
    simp [entryOf, Json.members?, payloadOf_create, Record.get?_members, hk]
  case patch => exact ⟨id, rfl⟩
  case delete => exact ⟨id, rfl⟩

theorem isBrief_answerOf {kind : MutationKind} {type id : String} {fields : Record}
    {result : Except Halt Unit} {a : Answer}
    (h : answerOf (entryOf kind.name (.object (payloadOf kind type id fields.members))) result =
      .ok a) : a.IsBrief := by
  have ⟨key, he⟩ := entryOf_payloadOf kind type id fields
  rw [he] at h
  rcases result with (refusal | fault) | _
  case error.refused =>
    cases h
    exact isBrief_refused refusal
  case error.fault => cases h
  case ok =>
    cases h
    exact isBrief_mutatedAnswer key kind.name

theorem applyKind_name (kind : MutationKind) (payload : Json) (documents : Documents) :
    applyKind kind.name payload documents =
      match kind with
      | .create mode => create mode payload documents
      | .patch => patch payload documents
      | .delete => delete payload documents := by
  rw [applyKind, JsonText.string?]
  simp only [Option.bind_some, MutationKind.ofName?_name]
  cases kind <;> rfl

theorem create_members {r : Record} {key : JsonText} (h : r.get? "_id" = some key)
    (mode : CreateMode) (documents : Documents) :
    create mode (.object r.members) documents =
      match mode, documents.has (.text key) with
      | .create, true => halted documents (.refused (.alreadyExists (.text key)))
      | .createIfNotExists, true => (documents, .ok ())
      | _, _ => (documents.put (.text key) r.document, .ok ()) := by
  have hm : memberId (.object r.members) "_id" = .ok (.text key) := by
    simp [memberId, member, Record.get?_members, h, identify, Key.ofJson?]
  rw [create, hm]
  cases hd : documents.has (.text key) <;> cases mode <;>
    simp only [hd, Json.members?, Option.getD_some, Record.ofMembers_members]

theorem patch_payload (type id : String) (fields : Record) (documents : Documents) :
    patch (.object (payloadOf .patch type id fields.members)) documents =
      match documents.get? (.text id) with
      | none => halted documents (.refused (.notFound (.text id)))
      | some document =>
        (documents.put (.text id) (Entries.update document fields.document), .ok ()) := by
  have hm : memberId (.object (payloadOf .patch type id fields.members)) "id" = .ok (.text id) :=
    rfl
  have hc : changesOf (((payloadOf .patch type id fields.members).get? "set").getD (.object [])) =
      (fields.document, none) := by
    rw [← Record.ofMembers_members]
    rfl
  rw [patch, hm]
  cases hd : documents.get? (.text id)
  case none => simp only [hd]
  case some => simp only [Json.members?, Option.getD_some, hc, hd]

-- What is not there is deleted as well as anything else.
theorem delete_payload (type id : String) (fields : Record) (documents : Documents) :
    delete (.object (payloadOf .delete type id fields.members)) documents =
      (documents.erase (.text id), .ok ()) := by
  cases documents <;> rfl

section

variable (kind : MutationKind) (type id : String) (fields : Record)

-- A mutation of a client is carried out, or refused before anything is changed.
theorem applyKind_payloadOf (documents : Documents) :
    (∃ documents', applyKind kind.name (.object (payloadOf kind type id fields.members)) documents =
      (documents', .ok ())) ∨
    ∃ refusal, applyKind kind.name (.object (payloadOf kind type id fields.members)) documents =
      (documents, .error (.refused refusal)) := by
  rw [applyKind_name]
  cases kind
  case create mode =>
    have ⟨key, hk⟩ := exists_get?_record type id fields "_id" rfl
    simp only [payloadOf_create, create_members hk]
    split
    case h_1 => exact .inr ⟨_, rfl⟩
    case h_2 => exact .inl ⟨_, rfl⟩
    case h_3 => exact .inl ⟨_, rfl⟩
  case patch =>
    simp only [patch_payload]
    split
    case h_1 => exact .inr ⟨_, rfl⟩
    case h_2 => exact .inl ⟨_, rfl⟩
  case delete => exact .inl ⟨_, delete_payload type id fields documents⟩

-- Documents that are not as they were before were changed by a mutation that was carried out.
theorem answerMutate_unchanged {stack : Stack} {r : Request}
    (h : bodyJson stack r "\x7b\x7d" = .ok (envelope kind (payloadOf kind type id fields.members)))
    (documents : Documents) :
    ∃ answer, (answerMutate stack r documents).2 = .ok answer ∧ answer.IsBrief ∧
      (Status.ofCode answer.code = .ok ∨ (answerMutate stack r documents).1 = documents) := by
  rw [answerMutate_envelope h]
  rcases applyKind_payloadOf kind type id fields documents with ⟨_, ha⟩ | ⟨refusal, ha⟩
  case inl =>
    rw [ha]
    exact ⟨_, rfl, @isBrief_answerOf kind type id fields (.ok ()) _ rfl, .inl rfl⟩
  case inr =>
    rw [ha]
    exact ⟨_, rfl, isBrief_refused refusal, .inr rfl⟩

theorem get?_documents (s : KeyedStore) (key : JsonText) :
    s.documents.get? (.text key) = (s.get? key).map Record.document :=
  Entries.get?_map _ Key.text_beq_text s key

theorem put_documents (s : KeyedStore) (key : JsonText) (r : Record) :
    s.documents.put (.text key) r.document = KeyedStore.documents (s.put key r) :=
  Entries.put_map _ Key.text_beq_text s key r

theorem erase_documents (s : KeyedStore) (key : JsonText) :
    s.documents.erase (.text key) = KeyedStore.documents (s.erase key) :=
  Entries.erase_map _ Key.text_beq_text s key

-- Whether the answer to an attempt has the code of a status, which no fault has.
def Means (result : Except Halt Unit) (status : Status) : Prop :=
  ∀ entry, ∃ answer, answerOf entry result = .ok answer ∧ .ofCode answer.code = status

theorem means_ok : Means (.ok ()) .ok :=
  fun _ => ⟨_, rfl, rfl⟩

theorem means_alreadyExists (key : Key) : Means (.error (.refused (.alreadyExists key))) .error :=
  fun _ => ⟨_, rfl, rfl⟩

theorem means_notFound (key : Key) : Means (.error (.refused (.notFound key))) .notFound :=
  fun _ => ⟨_, rfl, rfl⟩

theorem Means.unique {result : Except Halt Unit} {status status' : Status}
    (h : Means result status) (h' : Means result status') : status = status' := by
  have ⟨_, ha, hc⟩ := h .null
  have ⟨_, ha', hc'⟩ := h' .null
  cases ha.symm.trans ha'
  exact hc.symm.trans hc'

-- Any mutation of a client is answered with a code.
theorem exists_means (documents : Documents) :
    ∃ status, Means (applyKind kind.name
      (.object (payloadOf kind type id fields.members)) documents).2 status := by
  rcases applyKind_payloadOf kind type id fields documents with ⟨_, ha⟩ | ⟨refusal, ha⟩
  case inl => exact ⟨.ok, ha ▸ means_ok⟩
  case inr => exact ⟨.ofCode refusal.code, ha ▸ fun _ => ⟨_, rfl, rfl⟩⟩

theorem applyKind_documents (s : KeyedStore) :
    ∃ result, applyKind kind.name (.object (payloadOf kind type id fields.members)) s.documents =
      ((s.mutate kind type id fields).2.documents, result) ∧
      Means result (s.mutate kind type id fields).1 := by
  rw [applyKind_name]
  cases kind
  case create mode =>
    have ⟨key, hk⟩ := exists_get?_record type id fields "_id" rfl
    have hh : s.documents.has (.text key) = s.has key := Entries.has_map _ Key.text_beq_text s key
    simp only [payloadOf_create, create_members hk, mutate, hk, Option.getD_some, file, hh,
      put_documents]
    cases mode <;> cases s.has key <;>
      first | exact ⟨_, rfl, means_ok⟩ | exact ⟨_, rfl, means_alreadyExists _⟩
  case patch =>
    simp only [patch_payload, mutate, merge, get?_documents]
    cases s.get? id
    case none => exact ⟨_, rfl, means_notFound _⟩
    case some r =>
      have hu : Entries.update r.document fields.document = Record.document (r.update fields) :=
        Entries.update_map _ Record.key_beq r fields
      refine ⟨.ok (), ?_, means_ok⟩
      simp only [Option.map_some, hu, put_documents]
  case delete =>
    refine ⟨.ok (), ?_, means_ok⟩
    simp only [delete_payload, erase_documents, mutate, remove]

-- A dataset of records is changed as the plain store is, and the answer says what became of it.
theorem answerMutate_documents {stack : Stack} {r : Request}
    (h : bodyJson stack r "\x7b\x7d" = .ok (envelope kind (payloadOf kind type id fields.members)))
    (s : KeyedStore) :
    ∃ answer, answerMutate stack r s.documents =
      ((s.mutate kind type id fields).2.documents, .ok answer) ∧ answer.IsBrief ∧
      .ofCode answer.code = (s.mutate kind type id fields).1 := by
  have ⟨result, ha, hm⟩ := applyKind_documents kind type id fields s
  have ⟨answer, he, hc⟩ := hm <| entryOf kind.name (.object (payloadOf kind type id fields.members))
  exact ⟨answer, by rw [answerMutate_envelope h, ha, he], isBrief_answerOf he, hc⟩

end

end DocStore.Service
