import DocStore.Proofs.Client.Exchange
import DocStore.Proofs.Entries.Alter
import DocStore.Proofs.Service.Search

namespace DocStore

-- A document that has the text under which it is kept for its id, and some text for its type.
def Document.IsFiled (d : Document) (key : Key) : Prop :=
  ∃ id type, key = .text id ∧ d.field? "_id" = some (.text id) ∧
    d.field? "_type" = some (.text type)

-- Documents that are kept under their ids.
structure Documents.AreFiled (documents : Documents) : Prop where
  nodup : (documents.map Prod.fst).Nodup
  filed : ∀ e ∈ documents, e.2.IsFiled e.1

namespace Documents.AreFiled

variable {documents : Documents} (h : documents.AreFiled)
include h

theorem named : ∀ e ∈ documents, e.2.IsNamed := by
  intro e he
  have ⟨id, type, _, hi, ht⟩ := h.filed e he
  exact ⟨id, type, hi, ht⟩

theorem nodup_ids : (documents.map fun e => Selection.idOf e.2).Nodup := by
  have hk : documents.map Prod.fst = (documents.map fun e => Selection.idOf e.2).map .text := by
    rw [List.map_map]
    refine List.map_congr_left fun e he => ?_
    have ⟨id, _, hk, hi, _⟩ := h.filed e he
    rw [hk, Function.comp_apply, Selection.idOf_eq hi]
  exact .of_map _ <| hk ▸ h.nodup

theorem of_get? {id : JsonText} {d : Document} (hd : documents.get? (.text id) = some d) :
    d.IsFiled (.text id) := by
  have ⟨e, he, hk, hd⟩ := Entries.exists_mem_of_get? hd
  exact hd ▸ Key.text_beq.mp hk ▸ h.filed e he

theorem alter {id : JsonText} {f : Option Document → Option Document}
    (hf : ∀ d?, (∀ d ∈ d?, d.IsFiled (.text id)) → ∀ d ∈ f d?, d.IsFiled (.text id)) :
    Documents.AreFiled (Entries.alter (.text id) f documents) where
  nodup := Entries.nodup_alter f h.nodup
  filed e he := by
    rcases Entries.mem_alter he with he | ⟨hk, hd⟩
    case inl => exact h.filed e he
    case inr => exact Key.text_beq.mp hk ▸ hf _ (fun d hd => h.of_get? hd) e.2 hd

end Documents.AreFiled

-- What becomes of what is under a key, filed as before, and what is answered. Both depend on
-- nothing but that.
structure Rewrite (id : JsonText) (α : Type) where
  apply : Option Document → Option Document × α
  filed : ∀ d?, (∀ d ∈ d?, d.IsFiled (.text id)) → ∀ d ∈ (apply d?).1, d.IsFiled (.text id)

namespace Rewrite

variable {id id' : JsonText} {α β : Type}

def run (w : Rewrite id α) (documents : Documents) : Documents × α :=
  (documents.alter (.text id) fun d? => (w.apply d?).1, (w.apply (documents.get? (.text id))).2)

def keep (id : JsonText) (a : α) : Rewrite id α where
  apply d? := (d?, a)
  filed _ h := h

def map (f : α → β) (w : Rewrite id α) : Rewrite id β where
  apply d? := ((w.apply d?).1, f (w.apply d?).2)
  filed := w.filed

@[simp] theorem run_keep (a : α) (documents : Documents) :
    (keep id a).run documents = (documents, a) := by
  rw [run, keep, Entries.alter_of_eq rfl]

@[simp] theorem run_map (f : α → β) (w : Rewrite id α) (documents : Documents) :
    (w.map f).run documents = ((w.run documents).1, f (w.run documents).2) :=
  rfl

theorem areFiled_run (w : Rewrite id α) {documents : Documents} (h : documents.AreFiled) :
    (w.run documents).1.AreFiled :=
  h.alter w.filed

section

variable (hk : id ≠ id')
include hk

theorem text_beq_false : (Key.text id == Key.text id') = false :=
  Bool.eq_false_iff.mpr fun h => hk <| Key.text.inj (Key.text_beq.mp h).symm

-- Of a change under another key an answer shows nothing.
theorem answer_run_run (w : Rewrite id α) (w' : Rewrite id' β) (documents : Documents) :
    (w'.run (w.run documents).1).2 = (w'.run documents).2 := by
  simp only [run, Entries.get?_alter, text_beq_false hk.symm, Bool.false_eq_true, if_false]

theorem run_run_perm (w : Rewrite id α) (w' : Rewrite id' β) (documents : Documents) :
    (w'.run (w.run documents).1).1.Perm (w.run (w'.run documents).1).1 := by
  simp only [run]
  exact Entries.alter_alter_perm (text_beq_false hk) ..

theorem get?_run_run (w : Rewrite id α) (w' : Rewrite id' β) (documents : Documents) (key : Key) :
    (w'.run (w.run documents).1).1.get? key = (w.run (w'.run documents).1).1.get? key := by
  have h := text_beq_false hk
  have h' := text_beq_false hk.symm
  simp only [run, Entries.get?_alter, h, h', Bool.false_eq_true, if_false]
  cases hi : key == .text id <;> cases hi' : key == .text id'
  case true.true => cases h.symm.trans <| BEq.trans (BEq.symm hi) hi'
  all_goals rfl

end

section

variable {key : String} {r fields : Record}

-- A record is filed in place of what is there, or for the first time, as far as the mode allows.
def create (mode : CreateMode) (h : r.document.IsFiled (.text key)) :
    Rewrite key (Except Service.Halt Unit) where
  apply d? :=
    match mode, d? with
    | .create, some d => (some d, .error (.refused (.alreadyExists (.text key))))
    | .createIfNotExists, some d => (some d, .ok ())
    | _, _ => (some r.document, .ok ())
  filed d? hd := by
    split
    case h_1 => exact hd
    case h_2 => exact hd
    case h_3 => simpa using h

theorem isFiled_update {d : Document} (h : d.IsFiled (.text key))
    (hn : "_id" ∉ fields.map Prod.fst) :
    Document.IsFiled (Entries.update d fields.document) (.text key) := by
  have ⟨id, type, hk, hi, ht⟩ := h
  have hm {e : Key × Json} (he : e ∈ fields.document) :
      ∃ field ∈ fields, Prod.map (.text ∘ .plain) .text field = e := List.mem_map.mp he
  have hid : ∀ e ∈ fields.document, (Key.text "_id" == e.1) = false := by
    intro e he
    obtain ⟨field, hf, rfl⟩ := hm he
    have hne : "_id" ≠ field.1 := fun h => hn <| h ▸ List.mem_map_of_mem hf
    exact text_beq_false <| by simpa using hne
  have hi : Document.field? (Entries.update d fields.document) "_id" = some (.text id) :=
    (Entries.get?_update_of_beq_false hid).trans hi
  rcases Entries.get?_update d fields.document (.text "_type") with hu | ⟨e, he, hu⟩
  case inl => exact ⟨id, type, hk, hi, hu.trans ht⟩
  case inr =>
    obtain ⟨field, _, rfl⟩ := hm he
    exact ⟨id, field.2, hk, hi, hu⟩

def patch (key : String) (hn : "_id" ∉ fields.map Prod.fst) :
    Rewrite key (Except Service.Halt Unit) where
  apply
    | none => (none, .error (.refused (.notFound (.text key))))
    | some d => (some (Entries.update d fields.document), .ok ())
  filed
    | none, _ => nofun
    | some d, hd => by simpa using isFiled_update (hd d rfl) hn

def delete (key : String) : Rewrite key (Except Service.Halt Unit) where
  apply _ := (none, .ok ())
  filed _ _ := nofun

end

end Rewrite

namespace Service

open Mutation

variable {key : String} {fields : Record}

theorem create_eq_run {r : Record} (hr : r.get? "_id" = some key)
    (h : r.document.IsFiled (.text key)) (mode : CreateMode) (documents : Documents) :
    create mode (.object r.members) documents = (Rewrite.create mode h).run documents := by
  rw [create_members hr, Rewrite.run, Entries.alter, Entries.has]
  cases hd : documents.get? (.text key) <;> cases mode
  case some.create => simp [Rewrite.create, Entries.put_of_get? hd, halted]
  case some.createIfNotExists => simp [Rewrite.create, Entries.put_of_get? hd]
  all_goals rfl

theorem patch_eq_run (hn : "_id" ∉ fields.map Prod.fst) (type : String) (documents : Documents) :
    patch (.object (payloadOf .patch type key fields.members)) documents =
      (Rewrite.patch key hn).run documents := by
  rw [patch_payload, Rewrite.run, Entries.alter]
  cases hd : documents.get? (.text key)
  case none => simp [Rewrite.patch, Entries.erase_of_get? hd, halted]
  case some => rfl

theorem delete_eq_run (type : String) (documents : Documents) :
    delete (.object (payloadOf .delete type key fields.members)) documents =
      (Rewrite.delete key).run documents := by
  rw [delete_payload]
  rfl

-- Without a field for it, the id of a record is the one that it is made with.
theorem isFiled_record (type key : String) (hu : fields.IsUnpaired)
    (hn : "_id" ∉ fields.map Prod.fst) :
    (KeyedStore.record type key fields).get? "_id" = some key ∧
      (KeyedStore.record type key fields).document.IsFiled (.text key) := by
  have hi : (KeyedStore.record type key fields).get? "_id" = some key := by
    rw [KeyedStore.record, Entries.get?_update_of_not_mem hn]
    rfl
  obtain ⟨type', ht⟩ := (KeyedStore.isDocument_record type key hu).type
  exact ⟨hi, key, type', rfl, by simp [Record.field?_document, hi],
    by simp [Record.field?_document, ht]⟩

-- A mutation that names no id in its fields is a change under the key that it is addressed to.
theorem exists_rewrite (kind : MutationKind) (type key : String) (hu : fields.IsUnpaired)
    (hn : "_id" ∉ fields.map Prod.fst) :
    ∃ w : Rewrite key (Except Halt Unit), ∀ documents,
      applyKind kind.name (.object (payloadOf kind type key fields.members)) documents =
        w.run documents := by
  cases kind
  case create mode =>
    have ⟨hi, hf⟩ := isFiled_record type key hu hn
    refine ⟨.create mode hf, fun documents => ?_⟩
    rw [applyKind_name, payloadOf_create]
    exact create_eq_run hi hf mode documents
  case patch =>
    refine ⟨.patch key hn, fun documents => ?_⟩
    rw [applyKind_name]
    exact patch_eq_run hn type documents
  case delete =>
    refine ⟨.delete key, fun documents => ?_⟩
    rw [applyKind_name]
    exact delete_eq_run type documents

-- So the answer to a mutation, and what it leaves, are those of a change under its key.
theorem exists_rewrite_answer {r : Request} {kind : MutationKind} {type : String}
    (token : Option String) (stack : Stack) (hm : r.method = "POST") (hu : fields.IsUnpaired)
    (hb : bodyJson stack r "\x7b\x7d" =
      .ok (envelope kind (payloadOf kind type key fields.members)))
    (hn : "_id" ∉ fields.map Prod.fst) :
    ∃ w : Rewrite key (Except Fault Answer), ∀ documents,
      answer token stack r documents = w.run documents := by
  rcases answer_of_post token stack hm with ha | ⟨refusal, ha, _⟩
  case inl =>
    have ⟨w, hw⟩ := exists_rewrite kind type key hu hn
    refine ⟨w.map <| answerOf <|
      entryOf kind.name (.object (payloadOf kind type key fields.members)), fun documents => ?_⟩
    rw [ha, answerMutate_envelope hb, hw, Rewrite.run_map]
  case inr => exact ⟨.keep key (.ok refusal), fun documents => by rw [ha, Rewrite.run_keep]⟩

end Service

end DocStore
