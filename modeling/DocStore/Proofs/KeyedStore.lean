import DocStore.Proofs.Service.Records

namespace DocStore

abbrev KeyedStore := Entries JsonText Record

namespace KeyedStore

-- The record that is created for a key of a table. Fields can take the place of both.
def record (table key : String) (fields : Record) : Record :=
  Entries.update [("_id", .plain key), ("_type", .plain table)] fields

-- Puts a record under a key, if the mode allows that where the key is taken.
def file (mode : CreateMode) (key : JsonText) (r : Record) (s : KeyedStore) : Status × KeyedStore :=
  match mode, s.has key with
  | .create, true => (.error, s)
  | .createIfNotExists, true => (.ok, s)
  | _, _ => (.ok, s.put key r)

def insert (mode : CreateMode) (table key : String) (fields : Record) (s : KeyedStore) :
    Status × KeyedStore :=
  s.file mode key (("_id", .plain key) :: ("_type", .plain table) :: fields)

-- Sets fields of the record under a key, whatever its type.
def merge (key : JsonText) (fields : Record) (s : KeyedStore) : Status × KeyedStore :=
  match s.get? key with
  | none => (.notFound, s)
  | some r => (.ok, s.put key (r.update fields))

def remove (key : JsonText) (s : KeyedStore) : Status × KeyedStore :=
  (.ok, s.erase key)

-- What a mutation does. A created record goes under its id, which a field may have changed.
def mutate (kind : MutationKind) (table key : String) (fields : Record) (s : KeyedStore) :
    Status × KeyedStore :=
  match kind with
  | .create mode =>
    let r := record table key fields
    s.file mode ((r.get? "_id").getD key) r
  | .patch => s.merge key fields
  | .delete => s.remove key

def find? (table key : String) (s : KeyedStore) : Option Record :=
  (s.get? (.plain key)).filter fun r => r.get? "_type" = some (.plain table)

-- The records of a table with an id. There is more than one if updates have given them the same.
def withId (table id : String) (s : KeyedStore) : List Record :=
  (s.map Prod.snd).filter fun r =>
    r.get? "_type" = some (.plain table) ∧ r.get? "_id" = some (.plain id)

-- The first records of a table from an id on, in the order of their ids.
def range (table start : String) (count : Nat) (s : KeyedStore) : List Record :=
  let found := (s.map Prod.snd).filter fun r =>
    r.get? "_type" = some (.plain table) ∧ ∃ id ∈ r.get? "_id", .plain start ≤ id
  (found.mergeSort fun a b => (a.get? "_id").getD "" ≤ (b.get? "_id").getD "").take count

def documents (s : KeyedStore) : Documents :=
  s.map <| Prod.map .text Record.document

theorem paired_record (table key : String) (fields : Record) :
    (record table key fields).paired = record table key fields.paired := by
  have hu : Entries.update
      (Record.paired [("_id", .plain key), ("_type", .plain table)]) fields.paired =
        (record table key fields).paired :=
    Entries.update_map JsonText.paired (fun _ _ => rfl) _ fields
  simpa [record, Record.paired] using hu.symm

theorem isUnpaired_update {r fields : Record} (hr : r.IsUnpaired) (hf : fields.IsUnpaired) :
    Record.IsUnpaired (Entries.update r fields) :=
  fun e he => (Entries.mem_update he).elim (hr e) (hf e)

theorem exists_get?_record (table key : String) (fields : Record) (name : String)
    (h : Entries.has [("_id", JsonText.plain key), ("_type", .plain table)] name = true) :
    ∃ v, (record table key fields).get? name = some v :=
  Option.isSome_iff_exists.mp <| Entries.has_update h

theorem isDocument_record (table key : String) {fields : Record} (hf : fields.IsUnpaired) :
    (record table key fields).IsDocument := by
  have hu : Record.IsUnpaired [("_id", .plain key), ("_type", .plain table)] := by
    simp [Record.IsUnpaired, JsonText.isUnpaired_plain]
  exact ⟨Entries.nodup_update (by simp), isUnpaired_update hu hf,
    exists_get?_record table key fields "_id" rfl, exists_get?_record table key fields "_type" rfl⟩

theorem isDocument_update {r fields : Record} (h : r.IsDocument) (hf : fields.IsUnpaired) :
    Record.IsDocument (Entries.update r fields) := by
  have hs {name : String} (h : ∃ v, r.get? name = some v) :
      ∃ v, Entries.get? (Entries.update r fields) name = some v :=
    Option.isSome_iff_exists.mp <| Entries.has_update <| Option.isSome_iff_exists.mpr h
  exact ⟨Entries.nodup_update h.nodup, isUnpaired_update h.unpaired hf, hs h.id, hs h.type⟩

def AreDocuments (s : KeyedStore) : Prop :=
  ∀ e ∈ s, e.2.IsDocument

theorem AreDocuments.map_snd {s : KeyedStore} (hs : s.AreDocuments) :
    ∀ r ∈ s.map Prod.snd, r.IsDocument := by
  intro r hr
  have ⟨e, he, hr⟩ := List.mem_map.mp hr
  exact hr ▸ hs e he

section

variable {s : KeyedStore} (hs : s.AreDocuments)
include hs

theorem areDocuments_put (key : JsonText) {r : Record} (hr : r.IsDocument) :
    AreDocuments (s.put key r) := by
  intro e he
  rcases Entries.mem_put he with rfl | he
  case inl => exact hr
  case inr => exact hs e he

theorem areDocuments_file {r : Record} (hr : r.IsDocument) (mode : CreateMode) (key : JsonText) :
    (s.file mode key r).2.AreDocuments := by
  unfold file
  split
  case h_1 => exact hs
  case h_2 => exact hs
  case h_3 => exact areDocuments_put hs key hr

theorem areDocuments_merge (key : JsonText) {fields : Record} (hf : fields.IsUnpaired) :
    (s.merge key fields).2.AreDocuments := by
  unfold merge
  split
  case h_1 => exact hs
  case h_2 r hr =>
    have hd := hs _ <| Entries.mem_of_get?_eq_some hr
    exact areDocuments_put hs key <| isDocument_update hd hf

theorem areDocuments_remove (key : JsonText) : (s.remove key).2.AreDocuments :=
  fun e he => hs e (List.mem_filter.mp he).left

theorem areDocuments_mutate (kind : MutationKind) (table key : String) {fields : Record}
    (hf : fields.IsUnpaired) : (s.mutate kind table key fields).2.AreDocuments := by
  cases kind
  case create mode => exact areDocuments_file hs (isDocument_record table key hf) mode _
  case patch => exact areDocuments_merge hs key hf
  case delete => exact areDocuments_remove hs key

end

end KeyedStore

end DocStore
