import DocStore.Proofs.Inserting
import DocStore.Proofs.Posting

namespace DocStore

namespace Mutation

theorem exists_textOf? {values : List (String × FieldInput)} {name : String}
    (h : ∀ e ∈ values, e.2.IsReadable) (hn : name ∈ values.map Prod.fst) :
    ∃ s, textOf? values name = some s := by
  obtain ⟨e, he, rfl⟩ := List.mem_map.mp hn
  have ⟨s, hs⟩ := FieldInput.toText_of_isReadable <| h e he
  refine Option.ne_none_iff_exists'.mp fun ht => ?_
  have := List.findSome?_eq_none_iff.mp ht e (List.mem_reverse.mpr he)
  simp [hs, Except.toOption] at this

end Mutation

namespace Client

variable {c : Client} {s : Service} {type key : String} {values : List (String × FieldInput)}

-- An insert that was answered had texts for its values.
theorem readable_of_insert {status : Status}
    (h : (c.insert s type key (Mutation.named values)).result = .ok status) :
    ∀ e ∈ values, e.2.IsReadable := by
  intro e he
  by_contra hn
  have hs := c.insert_spec s type key (Mutation.named values)
  have ⟨_, ho, _⟩ := change_of_unreadable hs ⟨(.plain e.1, e.2), List.mem_map_of_mem he, hn⟩
  rw [ho] at h
  cases h

theorem insert_free (hc : c.Ready s.token) (hq : s.queue = [])
    (hk : s.documents.get? (.text key) = none) (hi : "_id" ∉ values.map Prod.fst)
    {fields : List (String × JsonText)} (ht : Edit.texts values = .ok fields) :
    (c.insert s type key (Mutation.named values)).result = .ok .ok ∧
    (c.insert s type key (Mutation.named values)).service.token = s.token ∧
    (c.insert s type key (Mutation.named values)).service.queue = s.queue ∧
    (c.insert s type key (Mutation.named values)).service.stack = s.stack ∧
    (c.insert s type key (Mutation.named values)).service.documents = s.documents ++
      [(.text key, (KeyedStore.record type key (Entries.ofList fields)).document)] := by
  have ⟨r, status, hm, ho, hx⟩ :=
    change_of_ready (m := ⟨.create c.mode, type, key, values⟩) (c.insert_spec s ..) hc hq ht
  have hg := @Mutation.get?_record_given _ _ ht type key "_id" _ rfl
  rw [Mutation.overridden_of_not_mem hi] at hg
  have hp := Entries.put_of_get?_eq_none
    (KeyedStore.record type key (Entries.ofList fields)).document hk
  have ha : Edit.applied ⟨.create c.mode, type, key, values⟩ (Entries.ofList fields)
      s.documents = (s.documents ++
        [(.text key, (KeyedStore.record type key (Entries.ofList fields)).document)], .ok ()) := by
    rw [Edit.applied, Edit.payloadWith, Service.applyKind_name]
    dsimp only
    rw [Mutation.payloadOf_create, Service.create_members hg, Entries.has, hk, ← hp]
    cases c.mode <;> rfl
  rw [ha] at hm hx
  rw [ho, hx, hm.unique Service.means_ok]
  exact ⟨rfl, rfl, rfl, rfl, rfl⟩

end Client

-- A document that has a type, and an id as well if the type is a given one. Lookups in that type do
-- not fail because of it.
def Document.IsPassable (d : Document) (type : String) : Prop :=
  ∃ v, d.field? "_type" = some v ∧ (v = .text type → ∃ id, d.field? "_id" = some id)

namespace Selection

def isHomonym (type id : String) (d : Document) : Bool :=
  (d.field? "_type").bind Json.string? = some type && (d.field? "_id").bind Json.string? = some id

def homonyms (type id : String) (documents : Documents) : List Document :=
  (documents.map Prod.snd).filter (isHomonym type id)

theorem homonyms_concat {type id : String} {d : Document} (hi : d.field? "_id" = some (.text id))
    (ht : d.field? "_type" = some (.text type)) (documents : Documents) (key : Key) :
    homonyms type id (documents ++ [(key, d)]) = homonyms type id documents ++ [d] := by
  simp [homonyms, isHomonym, hi, ht, Json.string?]

theorem selects_lookup {q : Selection} (hc : q.comparison = .equal) {d : Document}
    (h : d.IsPassable q.typeText) : q.selects d = .ok (isHomonym q.typeText q.idText d) := by
  obtain ⟨v, hv, hi⟩ := h
  rw [selects, isHomonym, hv]
  by_cases ht : v = .text q.typeText
  case pos =>
    obtain ⟨id, hi⟩ := hi ht
    cases id <;> simp [ht, hi, hc, Comparison.holds, Comparison.admits, Json.string?]
  case neg => simp [ht]

-- A query for an id is answered with its rows, if all of them can be copied.
theorem run_lookup {q : Selection} {names : List String} {documents : Documents}
    (stack : Stack) (hc : q.comparison = .equal) (hn : q.count = none)
    (hq : q.fields = projectionOf names)
    (hd : ∀ e ∈ documents, e.2.IsPassable q.typeText) :
    q.run stack documents =
      copied stack ((homonyms q.typeText q.idText documents).map (returned names)) := by
  have hf : ∀ d ∈ documents.map Prod.snd, d.IsPassable q.typeText := by
    simpa using fun d key he => hd (key, d) he
  rw [run, found, filter_of_selects fun d hm => selects_lookup hc (hf d hm), hc, limit?, hn,
    shape_eq hq]
  rfl

section

variable {names : List String} {name : String}

theorem mem_of_mem_namesOf (h : name ∈ namesOf names) : name ∈ names := by
  unfold namesOf at h
  split at h
  case isTrue => exact h
  case isFalse => exact List.mem_of_mem_filter h

theorem get?_record_returned (hf : names ≠ []) (h : name ∉ namesOf names) (d : Document) :
    (Response.record names (returned names d).toMembers).get? name = none := by
  rw [Response.get?_record]
  split
  case isFalse => rfl
  case isTrue hm =>
    have hn : names ≠ [""] := by
      intro hn
      rw [namesOf, if_pos hn] at h
      exact h hm
    rw [namesOf, if_neg hn, List.mem_filter, not_and] at h
    have hr := returned_eq_project hf hn
    have hn : name ∉ fieldNames (",".intercalate names).toList := by
      rw [mem_fieldNames hm]
      simpa using h hm
    rw [hr, toMembers_project, get?_picked, if_neg hn, Option.map_none]

-- Of a record those of its fields come back that are asked for as such.
theorem returned_document (names : List String) (r : Record) :
    ∃ row : Record, returned names r.document = row.document ∧
      row.pick names = r.pick (namesOf names) := by
  have hs := shape_document ⟨[], .equal, [], none, projectionOf names⟩ r
  rw [shape_eq rfl] at hs
  exact ⟨_, hs, pick_shapeRecord rfl r⟩

theorem isShallow_document (r : Record) (stack : Stack) : r.document.IsShallow stack := by
  rw [Document.IsShallow, Record.document, List.forall_mem_map]
  intro field _
  exact Nat.le_trans (show 1 + 4 ≤ 32 by decide) stack.ample

end

end Selection

namespace Client

open Selection

variable {c : Client} {s : Service} {names : List String}

theorem read_of_ready (hc : c.Ready s.token) (hq : s.queue = [])
    {type : String} (hd : ∀ e ∈ s.documents, e.2.IsPassable type) (id : String) (into : Record) :
    (HasBrace names → (c.read s type id (some names) into).1.result = .ok .badRequest ∧
      (c.read s type id (some names) into).2 = into) ∧
    (¬HasBrace names → homonyms type id s.documents ≠ [] →
      (∀ d ∈ homonyms type id s.documents, (returned names d).toJson.isCarried = true ∧
        (returned names d).IsShallow s.stack) →
      (c.read s type id (some names) into).1.result = .ok .ok ∧
      (c.read s type id (some names) into).2 = ((homonyms type id s.documents).map fun d =>
        Response.record names (returned names d).toMembers).foldl Entries.update into) := by
  have hp := parse?_lookup type id names
  have hq' := (Query.lookup type id names).text_ne_empty
  rw [read, Option.getD_some, collect]
  constructor
  case left =>
    intro hb
    rw [if_pos hb] at hp
    rw [ask_of_unsupported hc hq hq' hp]
    exact ⟨rfl, rfl⟩
  case right =>
    intro hb hn hm
    rw [if_neg hb] at hp
    have hr := @run_lookup ⟨type.toList, .equal, id.toList, none, projectionOf names⟩ names
      s.documents s.stack rfl rfl rfl (by rwa [typeText, String.ofList_toList])
    rw [typeText, idText, String.ofList_toList, String.ofList_toList,
      (copied_cases _ _).left (List.forall_mem_map.mpr fun d hd => (hm d hd).right)] at hr
    have ha : Service.answerQuery s.stack (Query.lookup type id names).text s.documents =
        .ok (Service.rowsAnswer (Query.lookup type id names).text
          ((homonyms type id s.documents).map (returned names))) := by
      rw [Service.answerQuery, hp]
      exact congrArg (Except.map _) hr
    obtain ⟨response, ho, hf⟩ :=
      Response.finds_rowsAnswer_of_isCarried (Query.lookup type id names).text
        (List.forall_mem_map.mpr fun d hd => (hm d hd).left) (depth_of_run hr)
    rw [ask_of_finds hc hq hq' ha ho hf]
    cases hl : homonyms type id s.documents
    case nil => exact absurd hl hn
    case cons d ds => simp [deliverRecord, List.foldl_map]

-- Nothing is under a name that none of the merged rows has.
theorem get?_foldl_update {records : List Record} {name : String}
    (h : ∀ record ∈ records, record.get? name = none) (into : Record) :
    (records.foldl Entries.update into).get? name = into.get? name := by
  induction records generalizing into
  case nil => rfl
  case cons record records hi =>
    rw [List.forall_mem_cons] at h
    rw [List.foldl_cons, hi h.right,
      Entries.get?_update_of_not_mem <| Entries.get?_eq_none_iff.mp h.left]

theorem read_of_last {type id : String} {r : Record} (hc : c.Ready s.token) (hq : s.queue = [])
    (hd : ∀ e ∈ s.documents, e.2.IsPassable type) {documents : Documents}
    (he : homonyms type id s.documents = homonyms type id documents ++ [r.document])
    (hf : names ≠ []) (hr : r.IsDocument)
    (hh : ∀ d ∈ homonyms type id documents, (returned names d).toJson.isCarried = true ∧
      (returned names d).IsShallow s.stack)
    (hb : ¬HasBrace names) :
    (c.read s type id (some names) []).1.result = .ok .ok ∧
    ∀ name, (name ∈ namesOf names → ∃ v, r.get? name = some v) →
      (c.read s type id (some names) []).2.get? name =
        if name ∈ namesOf names then r.get? name else none := by
  obtain ⟨row, hw, hp⟩ := returned_document names r
  have hc' : (returned names r.document).toJson.isCarried = true := by
    refine isCarried_returned ?_
    rw [Document.toJson, Record.toMembers_document]
    exact Record.isCarried_members hr.nodup hr.unpaired
  have hh : ∀ d ∈ homonyms type id s.documents, (returned names d).toJson.isCarried = true ∧
      (returned names d).IsShallow s.stack := by
    rw [he, List.forall_mem_append, List.forall_mem_singleton]
    exact ⟨hh, hc', hw ▸ isShallow_document row s.stack⟩
  obtain ⟨ho, hm⟩ := (read_of_ready hc hq hd id []).right hb (by simp [he]) hh
  refine ⟨ho, fun name hv => ?_⟩
  rw [hm, he, List.map_append, List.foldl_append, List.map_singleton, List.foldl_cons,
    List.foldl_nil, hw, Record.toMembers_document, Response.record_members, hp,
    Entries.get?_update_eq, Entries.lookup_reverse (Record.nodup_pick _ _), Record.get?_pick]
  split
  case isTrue hm =>
    obtain ⟨v, hv⟩ := hv hm
    rw [hv, Option.some_or]
  case isFalse hm =>
    rw [Option.none_or, get?_foldl_update (List.forall_mem_map.mpr fun d _ =>
      get?_record_returned hf hm d)]
    rfl

open Mutation (textOf?)

section

variable {type key : String} {values : List (String × FieldInput)} (hq : s.queue = [])
  (hk : s.documents.get? (.text key) = none) (hi : "_id" ∉ values.map Prod.fst)
  (ht : "_type" ∉ values.map Prod.fst) (hd : ∀ e ∈ s.documents, e.2.IsPassable type)
  (hf : names ≠ []) (hs : ∀ name ∈ names, name ∈ values.map Prod.fst)
  (hh : ∀ d ∈ homonyms type key s.documents, (returned names d).toJson.isCarried = true ∧
    (returned names d).IsShallow s.stack)
include hq hk hi ht hd hf hs hh

-- What was inserted comes last among the documents of its type and its id, and the row that is
-- merged last is the one that stays.
theorem read_of_insert (hc : c.Ready s.token) (hr : ∀ e ∈ values, e.2.IsReadable) :
    (c.insert s type key (Mutation.named values)).result = .ok .ok ∧
    let reading := c.read (c.insert s type key (Mutation.named values)).service type key
      (some names) []
    (HasBrace names → reading.1.result = .ok .badRequest ∧ reading.2 = []) ∧
    (¬HasBrace names → reading.1.result = .ok .ok ∧ ∀ name,
      reading.2.get? name = if name ∈ namesOf names then textOf? values name else none) := by
  obtain ⟨fields, hx⟩ := Edit.texts_of_readable hr
  have ⟨hso, hst, hsq, hss, hsd⟩ := @insert_free c s type key values hc hq hk hi fields hx
  have hg := Mutation.get?_record hx type key
  have hid := @Mutation.get?_record_given _ _ hx type key "_id" _ rfl
  have hty := @Mutation.get?_record_given _ _ hx type key "_type" _ rfl
  have hn := KeyedStore.isDocument_record type key (Edit.isUnpaired_ofList_texts hx)
  rw [Mutation.overridden_of_not_mem hi] at hid
  rw [Mutation.overridden_of_not_mem ht] at hty
  -- From here on only the lookups in the record matter, and of the service only its documents.
  generalize KeyedStore.record type key (Entries.ofList fields) = r at hsd hg hid hty hn
  generalize (c.insert s type key (Mutation.named values)).service = s' at hst hsq hss hsd ⊢
  have hc : c.Ready s'.token := hst ▸ hc
  have hq : s'.queue = [] := hsq.trans hq
  have hid : r.document.field? "_id" = some (.text key) := by simp [Record.field?_document, hid]
  have hty : r.document.field? "_type" = some (.text type) := by
    simp [Record.field?_document, hty]
  have hd : ∀ e ∈ s'.documents, e.2.IsPassable type := by
    rw [hsd, List.forall_mem_append, List.forall_mem_singleton]
    exact ⟨hd, _, hty, fun _ => ⟨_, hid⟩⟩
  have he : homonyms type key s'.documents = homonyms type key s.documents ++ [r.document] := by
    rw [hsd]
    exact homonyms_concat hid hty ..
  refine ⟨hso, (read_of_ready hc hq hd key []).left, fun hb => ?_⟩
  have ⟨ho, hm⟩ := read_of_last hc hq hd he hf hn (hss ▸ hh) hb
  have hv {name : String} (h : name ∈ namesOf names) :
      ∃ v, r.get? name = some v ∧ textOf? values name = some v := by
    have ⟨v, hv⟩ := Mutation.exists_textOf? hr <| hs name <| mem_of_mem_namesOf h
    exact ⟨v, by rw [hg, hv, Option.some_or], hv⟩
  refine ⟨ho, fun name => ?_⟩
  rw [hm name fun h => (hv h).imp fun _ h => h.left]
  split
  case isTrue h =>
    have ⟨v, hr, ht⟩ := hv h
    rw [hr, ht]
  case isFalse => rfl

-- After an insert under an id that was free, a read finds under each name that it asks for what the
-- insert had there. The names that cannot be asked for are lost without a sign, but for a closing
-- brace: that makes a query which is not understood.
theorem read_after_insert (hc : c.IsPlain s.token)
    (ho : (c.insert s type key (Mutation.named values)).result = .ok .ok) :
    let reading := c.read (c.insert s type key (Mutation.named values)).service type key
      (some names) []
    (HasBrace names → reading.1.result = .ok .badRequest ∧ reading.2 = []) ∧
    (¬HasBrace names → reading.1.result = .ok .ok ∧ ∀ name,
      reading.2.get? name = if name ∈ namesOf names then textOf? values name else none) :=
  (read_of_insert hq hk hi ht hd hf hs hh (ready_of_isPlain hc) (readable_of_insert ho)).right

end

-- A shelf where another document has the id under which one is to be put there, and one document
-- has no id at all.
def shelf : Service where
  token := some "secret"
  documents :=
    [(.text "1", [(.text "_id", .text "k"), (.text "_type", .text "t"), (.text "f", .int 0)]),
      (.text "2", [(.text "_type", .null)])]

def labels : List (String × FieldInput) :=
  [("f", .text "1"), ("f,g", .bytes [0x32]), ("\x7d", .other .null)]

theorem read_after_insert_shelf :
    librarian.start.1.IsPlain shelf.token ∧ shelf.queue = [] ∧
    shelf.documents.get? (.text "k") = none ∧
    "_id" ∉ labels.map Prod.fst ∧ "_type" ∉ labels.map Prod.fst ∧
    (∀ e ∈ shelf.documents, e.2.IsPassable "t") ∧
    (∀ name ∈ ["f", "f,g"], name ∈ labels.map Prod.fst) ∧
    (∀ d ∈ homonyms "t" "k" shelf.documents, (returned ["f", "f,g"] d).toJson.isCarried = true ∧
      (returned ["f", "f,g"] d).IsShallow shelf.stack) ∧
    (librarian.start.1.insert shelf "t" "k" (Mutation.named labels)).result = .ok .ok ∧
    let shelf := (librarian.start.1.insert shelf "t" "k" (Mutation.named labels)).service
    let reading := librarian.start.1.read shelf "t" "k" (some ["f", "f,g"]) []
    reading.1.result = .ok .ok ∧ reading.2.get? "f" = some "1" ∧ reading.2.get? "f,g" = none := by
  have hk : shelf.documents.get? (.text "k") = none := by decide
  have hi : "_id" ∉ labels.map Prod.fst := by decide
  have ht : "_type" ∉ labels.map Prod.fst := by decide
  have hd : ∀ e ∈ shelf.documents, e.2.IsPassable "t" := by
    simp only [shelf, List.forall_mem_cons]
    exact ⟨⟨_, rfl, fun _ => ⟨_, rfl⟩⟩, ⟨_, rfl, nofun⟩, by simp⟩
  have hs : ∀ name ∈ ["f", "f,g"], name ∈ labels.map Prod.fst := by decide
  have hh : ∀ d ∈ homonyms "t" "k" shelf.documents,
      (returned ["f", "f,g"] d).toJson.isCarried = true ∧
        (returned ["f", "f,g"] d).IsShallow shelf.stack := by
    decide +kernel
  obtain ⟨_, hx⟩ : ∃ fields, Edit.texts labels = .ok fields := by
    refine Edit.texts_of_readable ?_
    simp only [labels, List.forall_mem_cons]
    exact ⟨trivial, ⟨['2'], by decide⟩, trivial, by simp⟩
  obtain ⟨ho, _⟩ := @insert_free librarian.start.1 shelf "t" "k" labels
    (ready_of_isPlain isPlain_librarian) rfl hk hi _ hx
  obtain ⟨hr, hm⟩ := (read_after_insert (c := librarian.start.1) rfl hk hi ht hd (by decide) hs hh
    isPlain_librarian ho).right (by decide)
  exact ⟨isPlain_librarian, rfl, hk, hi, ht, hd, hs, hh, ho, hr, hm "f", hm "f,g"⟩

-- A name with a comma is asked for as two others, and a brace in a name ends the projection.
theorem read_divided :
    let empty : Service := { token := some "secret" }
    let comma := librarian.start.1.insert empty "t" "k" (Mutation.named [("a,b", .text "1")])
    let brace := librarian.start.1.insert empty "t" "k" (Mutation.named [("\x7d", .text "1")])
    librarian.start.1.IsPlain empty.token ∧ empty.queue = [] ∧
    comma.result = .ok .ok ∧
    (librarian.start.1.read comma.service "t" "k" (some ["a,b"]) []).1.result = .ok .ok ∧
    (librarian.start.1.read comma.service "t" "k" (some ["a,b"]) []).2.get? "a,b" = none ∧
    brace.result = .ok .ok ∧
    (librarian.start.1.read brace.service "t" "k" (some ["\x7d"]) []).1.result =
      .ok .badRequest := by
  have hc := ready_of_isPlain isPlain_librarian
  have hn : ∀ e ∈ ([] : Documents), e.2.IsPassable "t" := nofun
  have ⟨ho, _, hr⟩ := @read_of_insert librarian.start.1 { token := some "secret" } ["a,b"] "t" "k"
    [("a,b", .text "1")] rfl rfl (by decide) (by decide) hn (by decide) (by decide) nofun hc
    (by simp [FieldInput.IsReadable])
  have ⟨ho', hb, _⟩ := @read_of_insert librarian.start.1 { token := some "secret" } ["\x7d"] "t" "k"
    [("\x7d", .text "1")] rfl rfl (by decide) (by decide) hn (by decide) (by decide) nofun hc
    (by simp [FieldInput.IsReadable])
  have ⟨hr, hm⟩ := hr (by decide)
  exact ⟨isPlain_librarian, rfl, ho, hr, hm "a,b", ho', (hb (by decide)).left⟩

end Client

end DocStore
