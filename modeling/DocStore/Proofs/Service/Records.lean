import DocStore.Client
import DocStore.Proofs.Entries
import DocStore.Proofs.Json.Written
import DocStore.Proofs.Service.Search

namespace DocStore

theorem Key.text_beq_text (a b : JsonText) : (text a == text b) = (a == b) := by
  rw [Bool.eq_iff_iff, text_beq, text.injEq, beq_iff_eq]
  exact eq_comm

namespace Record

def members (r : Record) : List (JsonText × Json) :=
  r.map <| Prod.map .plain .text

def document (r : Record) : Document :=
  r.map <| Prod.map (.text ∘ .plain) .text

theorem plain_beq (a b : String) : (JsonText.plain a == .plain b) = (a == b) := by
  rw [Bool.eq_iff_iff]
  simp

theorem key_beq (a b : String) : ((Key.text ∘ .plain) a == (Key.text ∘ .plain) b) = (a == b) := by
  rw [Function.comp_apply, Function.comp_apply, Key.text_beq_text, plain_beq]

@[simp] theorem ofMembers_members (r : Record) : Document.ofMembers r.members = r.document := by
  simp [Document.ofMembers, members, document, Function.comp_def]

@[simp] theorem toMembers_document (r : Record) : r.document.toMembers = r.members := by
  rw [← ofMembers_members, Document.toMembers_ofMembers]

theorem get?_members (r : Record) (name : String) :
    Entries.get? r.members (.plain name) = (r.get? name).map .text :=
  Entries.get?_map _ plain_beq r name

theorem field?_document (r : Record) (name : String) :
    r.document.field? name = (r.get? name).map .text :=
  Entries.get?_map _ key_beq r name

-- The texts are ones that JSON carries as they are.
def IsUnpaired (r : Record) : Prop :=
  ∀ e ∈ r, e.2.isUnpaired = true

theorem isCarried_members {r : Record} (h : (r.map Prod.fst).Nodup) (hu : r.IsUnpaired) :
    (Json.object r.members).isCarried = true := by
  have hn : (r.members.map Prod.fst).Nodup := by
    have hm : r.members.map Prod.fst = (r.map Prod.fst).map .plain := by simp [members]
    exact hm ▸ List.Pairwise.map _ (fun _ _ hn he => hn <| JsonText.plain.inj he) h
  have hm : Json.areCarriedMembersWith JsonText.isUnpaired r.members = true := by
    rw [Json.areCarriedMembersWith_iff, members, List.forall_mem_map]
    exact fun e he => ⟨JsonText.isUnpaired_plain e.1, hu e he⟩
  simp [Json.isCarried, Json.isCarriedWith, hn, hm]

def paired (r : Record) : Record :=
  r.map <| Prod.map id JsonText.paired

theorem reread_members {r : Record} (h : (r.map Prod.fst).Nodup) :
    (Json.object r.members).reread = .object r.paired.members := by
  have hm : Json.rereadMembers r.members = r.paired.members := by
    simp [Json.rereadMembers_eq, members, paired, Function.comp_def, Json.reread, Prod.map]
  have hn : (r.paired.members.map Prod.fst).Nodup := by
    have hm : r.paired.members.map Prod.fst = (r.map Prod.fst).map .plain := by
      simp [members, paired]
    exact hm ▸ List.Pairwise.map _ (fun _ _ hn he => hn <| JsonText.plain.inj he) h
  rw [Json.reread, hm, Entries.ofList_of_nodup hn]

theorem depth_members (r : Record) : (Json.object r.members).depth = 1 := by
  suffices Json.membersDepth r.members = 0 by simp [Json.depth, this]
  induction r
  case nil => rfl
  case cons e r hi => simpa [members, Json.membersDepth, Json.depth] using hi

def pick (names : List String) (r : Record) : Record :=
  Entries.ofList <| names.filterMap fun name => (r.get? name).map (name, ·)

theorem project_document (names : List String) (r : Record) :
    Selection.project names r.document = (r.pick names).document := by
  have he : names.filterMap (fun name => (r.document.field? name).map (Key.text name, ·)) =
      (names.filterMap fun name => (r.get? name).map (name, ·)).map
        (Prod.map (.text ∘ .plain) .text) := by
    simp [List.map_filterMap, field?_document, Function.comp_def]
  rw [Selection.project, he, Entries.ofList_map _ key_beq]
  rfl

theorem nodup_pick (names : List String) (r : Record) : ((r.pick names).map Prod.fst).Nodup :=
  Entries.nodup_ofList _

-- What is not among the names is not picked, and what is picked stays what it was.
theorem get?_pick (names : List String) (r : Record) (name : String) :
    (r.pick names).get? name = if name ∈ names then r.get? name else none :=
  Entries.get?_ofList_filterMap (fun _ _ h => h) r.get? names name

theorem isUnpaired_pick (names : List String) {r : Record} (h : r.IsUnpaired) :
    (r.pick names).IsUnpaired := by
  intro e he
  have hg := Entries.get?_of_mem (nodup_pick names r) he
  rw [get?_pick] at hg
  split at hg
  case isTrue => exact h _ <| Entries.mem_of_get?_eq_some hg
  case isFalse => cases hg

-- A record that can be stored: it has an id and a type, no field twice, and texts that JSON
-- carries.
structure IsDocument (r : Record) : Prop where
  nodup    : (r.map Prod.fst).Nodup
  unpaired : r.IsUnpaired
  id       : ∃ id, r.get? "_id" = some id
  type     : ∃ type, r.get? "_type" = some type

theorem isNamed_document {r : Record} (h : r.IsDocument) : r.document.IsNamed := by
  have ⟨id, hi⟩ := h.id
  have ⟨type, ht⟩ := h.type
  exact ⟨id, type, by simp [field?_document, hi], by simp [field?_document, ht]⟩

end Record

namespace Selection

variable (q : Selection)

def takes (r : Record) : Bool :=
  r.get? "_type" = some (.plain q.typeText) && (r.get? "_id").any (q.comparison.admits q.idText)

theorem idOf_document (r : Record) : idOf r.document = (r.get? "_id").getD "" := by
  rw [idOf, Record.field?_document]
  cases r.get? "_id" <;> rfl

theorem admits_document {r : Record} (h : r.IsDocument) : q.admits r.document = q.takes r := by
  have ⟨id, hi⟩ := h.id
  have ⟨type, ht⟩ := h.type
  simp [admits, takes, Record.field?_document, idOf_document, hi, ht, Json.string?]

theorem filter_documents {rs : List Record} (h : ∀ r ∈ rs, r.IsDocument) :
    q.filter (rs.map Record.document) = .ok ((rs.filter q.takes).map Record.document) := by
  have hn : ∀ d ∈ rs.map Record.document, d.IsNamed :=
    List.forall_mem_map.mpr fun r hr => Record.isNamed_document (h r hr)
  have ha : ∀ r ∈ rs, (q.admits ∘ Record.document) r = q.takes r :=
    fun r hr => admits_document q (h r hr)
  rw [filter_eq hn, List.filter_map, List.filter_congr ha]

def sortRecords (rs : List Record) : List Record :=
  rs.mergeSort fun a b => (a.get? "_id").getD "" ≤ (b.get? "_id").getD ""

theorem sortById_documents (rs : List Record) :
    sortById (rs.map Record.document) = (sortRecords rs).map Record.document := by
  rw [sortById, sortRecords, List.map_mergeSort]
  simp [idOf_document]

def shapeRecord (r : Record) : Record :=
  match q.fields with
  | some (c :: cs) => r.pick (fieldNames (c :: cs))
  | _ => r

theorem shape_document (r : Record) : q.shape r.document = (q.shapeRecord r).document := by
  rw [shape, shapeRecord]
  rcases q.fields with _ | _ | ⟨c, cs⟩
  case none => rfl
  case some.nil => rfl
  case some.cons => exact Record.project_document _ r

def rows (limit : Option Nat) (rs : List Record) : List Record :=
  let selected := rs.filter q.takes
  let ordered := match q.comparison with
    | .equal => selected
    | .atLeast => sortRecords selected
  let window := match limit with
    | some n => ordered.take n
    | none => ordered
  window.map q.shapeRecord

variable {q} in
theorem mem_rows {limit : Option Nat} {rs : List Record} {r : Record} (h : r ∈ q.rows limit rs) :
    ∃ r' ∈ rs, r = q.shapeRecord r' := by
  have ⟨r', hr, he⟩ := List.mem_map.mp h
  have hs : r' ∈ rs.filter q.takes := by
    cases hc : q.comparison <;> cases limit <;> simp only [hc, sortRecords] at hr
    case equal.none => exact hr
    case equal.some => exact List.mem_of_mem_take hr
    case atLeast.none => exact List.mem_mergeSort.mp hr
    case atLeast.some => exact List.mem_mergeSort.mp <| List.mem_of_mem_take hr
  exact ⟨r', (List.mem_filter.mp hs).left, he.symm⟩

theorem isCarried_shapeRecord {r : Record} (h : r.IsDocument) :
    (Json.object (q.shapeRecord r).members).isCarried = true := by
  unfold shapeRecord
  split
  case h_1 =>
    exact Record.isCarried_members (Record.nodup_pick _ r) (Record.isUnpaired_pick _ h.unpaired)
  case h_2 => exact Record.isCarried_members h.nodup h.unpaired

theorem depth_documents (rs : List Record) :
    (Json.array ((rs.map Record.document).map Document.toJson)).depth ≤ 2 := by
  suffices Json.itemsDepth ((rs.map Record.document).map Document.toJson) ≤ 1 by
    rw [Json.depth]
    omega
  induction rs
  case nil => simp [Json.itemsDepth]
  case cons r rs hi =>
    rw [List.map_cons, List.map_cons, Json.itemsDepth, Document.toJson, Record.toMembers_document,
      Record.depth_members]
    omega

theorem copied_documents (stack : Stack) (rs : List Record) :
    copied stack (rs.map Record.document) = .ok (rs.map Record.document) := by
  have hd := depth_documents rs
  have hc := (Json.copyFrames_bounds <| .array <|
    (rs.map Record.document).map Document.toJson).right
  have hs := stack.ample
  rw [copied, if_neg (by omega)]

-- No query that gives a good limit comes to nothing.
theorem run_documents {documents : Documents} {rs : List Record} {limit : Option Nat}
    (stack : Stack) (hd : documents.map Prod.snd = rs.map Record.document)
    (h : ∀ r ∈ rs, r.IsDocument) (hl : q.limit? = .ok limit) :
    q.run stack documents = .ok ((q.rows limit rs).map Record.document) := by
  have hm (rs : List Record) :
      (rs.map Record.document).map q.shape = (rs.map q.shapeRecord).map Record.document := by
    simp [shape_document]
  unfold run found rows
  rw [hd, filter_documents q h, hl]
  cases q.comparison <;> cases limit <;>
    simp only [bind, Except.bind, pure, Except.pure, sortById_documents, ← List.map_take, hm,
      copied_documents]

end Selection

end DocStore
