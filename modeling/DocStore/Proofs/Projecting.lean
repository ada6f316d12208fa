import DocStore.Proofs.Client.Queries
import DocStore.Proofs.Reading

namespace DocStore

namespace Selection

section

variable {names names' : List String} (hn : names ≠ []) (hf : ∀ name ∈ names, name ≠ "")
  (hs : ∀ name, name ∈ names ↔ name ∈ names')
include hn hf hs

-- Two lists of the same names ask for the same fields.
theorem exists_returned_eq_project :
    ∃ asked asked', returned names = project asked ∧ returned names' = project asked' ∧
      ∀ name, name ∈ asked ↔ name ∈ asked' := by
  have ⟨name, hm⟩ := List.exists_mem_of_ne_nil names hn
  have hn' : names' ≠ [] := List.ne_nil_of_mem ((hs name).mp hm)
  have he {names : List String} (hf : ∀ name ∈ names, name ≠ "") : names ≠ [""] := by
    rintro rfl
    exact hf "" (.head _) rfl
  have hf' : ∀ name ∈ names', name ≠ "" := fun name hm => hf name ((hs name).mpr hm)
  exact ⟨_, _, returned_eq_project hn (he hf), returned_eq_project hn' (he hf'),
    mem_fieldNames_congr hs⟩

theorem forall_mem_returned_congr {p : Key × Json → Prop} (d : Document) :
    (∀ e ∈ returned names d, p e) ↔ ∀ e ∈ returned names' d, p e := by
  obtain ⟨asked, asked', hr, hr', ha⟩ := exists_returned_eq_project hn hf hs
  rw [hr, hr', forall_mem_project, forall_mem_project]
  simp only [ha]

theorem get?_reread_returned_congr (d : Document) (name : String) :
    (returned names d).reread.get? (.plain name) =
      (returned names' d).reread.get? (.plain name) := by
  obtain ⟨asked, asked', hr, hr', ha⟩ := exists_returned_eq_project hn hf hs
  simp only [hr, hr', get?_reread_project, ha]

-- Of queries that ask for the same names, one fails as the other, and both find the same documents.
theorem run_congr (q : Selection) (stack : Stack) (documents : Documents) :
    (∃ fault, run stack { q with fields := projectionOf names } documents = .error fault ∧
      run stack { q with fields := projectionOf names' } documents = .error fault) ∨
    ∃ ds : List Document, (∀ d ∈ ds, ∃ e ∈ documents, e.2 = d) ∧
      run stack { q with fields := projectionOf names } documents =
        .ok (ds.map (returned names)) ∧
      run stack { q with fields := projectionOf names' } documents =
        .ok (ds.map (returned names')) := by
  have hr (names : List String) : run stack { q with fields := projectionOf names } documents =
      (q.found documents).bind fun ds => copied stack (ds.map (returned names)) := by
    rw [run, found_withFields, shape_eq rfl]
  rw [hr names, hr names']
  cases hq : q.found documents
  case error fault => exact .inl ⟨fault, rfl, rfl⟩
  case ok ds =>
    have hd (d : Document) : (returned names d).IsShallow stack ↔
        (returned names' d).IsShallow stack := forall_mem_returned_congr hn hf hs d
    obtain ⟨hc, hc'⟩ := copied_cases stack (ds.map (returned names))
    obtain ⟨hx, hx'⟩ := copied_cases stack (ds.map (returned names'))
    rw [List.forall_mem_map] at hc hc' hx hx'
    simp only [hd] at hc hc'
    by_cases h : ∀ d ∈ ds, (returned names' d).IsShallow stack
    case pos => exact .inr ⟨ds, fun d hm => mem_of_found hq hm, hc h, hx h⟩
    case neg => exact .inl ⟨_, hc' h, hx' h⟩

end

end Selection

def Response.SameFields (row row' : Response.Row) : Prop :=
  ∀ name : String, row.get? (.plain name) = row'.get? (.plain name)

namespace Client

open Selection

inductive Answer.Alike : Answer → Answer → Prop where
  | ended (status : Status) : Alike (.ended status) (.ended status)
  | found {rows rows' : List Response.Row} (h : List.Forall₂ Response.SameFields rows rows') :
    Alike (.found rows) (.found rows')

theorem Answer.Alike.refl (answer : Answer) : answer.Alike answer := by
  cases answer
  case ended status => exact .ended status
  case found rows => exact .found <| List.forall₂_same.mpr fun _ _ _ => rfl

theorem answerFrom_rowsAnswer (stack : Stack) (address query : String) {rows : List Document}
    (h : ∀ d ∈ rows, d.toJson.isFloatFree = true)
    (hd : (Json.array (rows.map Document.toJson)).depth + 1 ≤ stack.room) :
    ((∀ d ∈ rows, d.toJson.tooLong? = none) →
      answerFrom stack address ((Service.rowsAnswer query rows).response stack) =
        .ok (.found (rows.map Document.reread))) ∧
    (¬(∀ d ∈ rows, d.toJson.tooLong? = none) →
      answerFrom stack address ((Service.rowsAnswer query rows).response stack) =
        .error (.ofFault "GET" address (.unwritable .overlong))) := by
  obtain ⟨hr, hf⟩ := Response.finds_rowsAnswer query h hd
  refine ⟨fun ht => ?_, fun ht => by rw [hf ht]; rfl⟩
  obtain ⟨response, ho, hc, hr⟩ := hr ht
  rw [ho, answerFrom_of_code hc]
  exact answerOf_eq_found_iff.mpr ⟨hc ▸ by decide, hr⟩

section

variable {names names' : List String} (hn : names ≠ []) (hf : ∀ name ∈ names, name ≠ "")
  (hs : ∀ name, name ∈ names ↔ name ∈ names')
include hn hf hs

-- Rows of the same names can be sent or not alike, and have the same fields as they are read.
theorem agree_rowsAnswer (stack : Stack) (address query query' : String) {ds : List Document}
    (hd : ∀ d ∈ ds, d.toJson.isFloatFree = true)
    (hr : (Json.array ((ds.map (returned names)).map Document.toJson)).depth + 1 ≤ stack.room)
    (hr' : (Json.array ((ds.map (returned names')).map Document.toJson)).depth + 1 ≤ stack.room) :
    Agree Failure.nature Answer.Alike
      (answerFrom stack address
        ((Service.rowsAnswer query (ds.map (returned names))).response stack))
      (answerFrom stack address
        ((Service.rowsAnswer query' (ds.map (returned names'))).response stack)) := by
  have ht (d : Document) : (returned names d).toJson.tooLong? = none ↔
      (returned names' d).toJson.tooLong? = none := by
    simp only [Document.tooLong?_toJson_eq_none_iff]
    exact forall_mem_returned_congr hn hf hs d
  have hd (names : List String) :
      ∀ row ∈ ds.map (returned names), row.toJson.isFloatFree = true :=
    List.forall_mem_map.mpr fun d hm => isFloatFree_returned (hd d hm)
  have ⟨ha, he⟩ := answerFrom_rowsAnswer stack address query (hd names) hr
  have ⟨ha', he'⟩ := answerFrom_rowsAnswer stack address query' (hd names') hr'
  rw [List.forall_mem_map] at ha he ha' he'
  simp only [ht] at ha he
  by_cases h : ∀ d ∈ ds, (returned names' d).toJson.tooLong? = none
  case pos =>
    rw [ha h, ha' h]
    refine .ok <| .found ?_
    simp only [List.map_map, List.forall₂_map_left_iff, List.forall₂_map_right_iff]
    exact List.forall₂_same.mpr fun d _ => get?_reread_returned_congr hn hf hs d
  case neg =>
    rw [he h, he' h]
    exact .error rfl

theorem agree_answerQuery {documents : Documents}
    (hd : ∀ e ∈ documents, e.2.toJson.isFloatFree = true) {q : Selection} {text text' : String}
    (hp : parse? text.toList =
      if HasBrace names then none else some { q with fields := projectionOf names })
    (hp' : parse? text'.toList =
      if HasBrace names' then none else some { q with fields := projectionOf names' })
    (stack : Stack) (address : String) :
    Agree Failure.nature Answer.Alike
      (answerFrom stack address
        ((Service.answerQuery stack text documents).bind (Service.Answer.response stack)))
      (answerFrom stack address
        ((Service.answerQuery stack text' documents).bind (Service.Answer.response stack))) := by
  have hb : HasBrace names ↔ HasBrace names' := by simp only [HasBrace, hs]
  by_cases h : HasBrace names'
  case pos =>
    rw [answerFrom_of_parse?_none (hp.trans (if_pos (hb.mpr h))),
      answerFrom_of_parse?_none (hp'.trans (if_pos h))]
    exact .ok (.ended _)
  case neg =>
    rw [if_neg (mt hb.mp h)] at hp
    rw [if_neg h] at hp'
    rw [Service.answerQuery, Service.answerQuery, hp, hp']
    dsimp only
    rcases run_congr hn hf hs q stack documents with ⟨fault, hr, hr'⟩ | ⟨ds, hm, hr, hr'⟩
    case inl =>
      rw [hr, hr']
      exact .error rfl
    case inr =>
      have hm : ∀ d ∈ ds, d.toJson.isFloatFree = true := by
        intro d hd'
        obtain ⟨e, he, rfl⟩ := hm d hd'
        exact hd e he
      have ha := agree_rowsAnswer hn hf hs stack address text text' hm (depth_of_run hr)
        (depth_of_run hr')
      rw [hr, hr']
      exact ha

theorem ask_agree (c : Client) (s : Service)
    (hd : s.queue = [] → ∀ e ∈ s.documents, e.2.toJson.isFloatFree = true)
    (q : Selection) {query query' : Query}
    (hp : parse? query.text.toList =
      if HasBrace names then none else some { q with fields := projectionOf names })
    (hp' : parse? query'.text.toList =
      if HasBrace names' then none else some { q with fields := projectionOf names' }) :
    Agree Failure.nature Answer.Alike (c.ask s query.text).result (c.ask s query'.text).result := by
  rcases c.ask_cases s with ⟨result, h⟩ | ⟨hq, address, isBroken, h⟩
  case inl =>
    exact (h _ query.text_ne_empty).join (h _ query'.text_ne_empty) Answer.Alike.refl
  case inr =>
    rw [h _ query.text_ne_empty, h _ query'.text_ne_empty]
    cases isBroken
    case false => exact agree_answerQuery hn hf hs (hd hq) hp hp' s.stack address
    case true =>
      rw [if_pos rfl, if_pos rfl, answerFrom_of_parse?_none query.parse?_spelled,
        answerFrom_of_parse?_none query'.parse?_spelled]
      exact .ok (.ended _)

end

end Client

-- Records that have the same fields, with the same texts, in whatever order.
structure Record.Alike (r r' : Record) : Prop where
  nodup  : (r.map Prod.fst).Nodup
  nodup' : (r'.map Prod.fst).Nodup
  get?   : ∀ name, r.get? name = r'.get? name

theorem Record.get?_foldl_update_congr {records records' : List Record}
    (h : List.Forall₂ Record.Alike records records') {into into' : Record}
    (hi : ∀ name, into.get? name = into'.get? name) (name : String) :
    (records.foldl Entries.update into).get? name =
      (records'.foldl Entries.update into').get? name := by
  induction h generalizing into into'
  case nil => exact hi name
  case cons hr _ hk =>
    refine hk fun name => ?_
    rw [Entries.get?_update_eq, Entries.get?_update_eq, Entries.lookup_reverse hr.nodup,
      Entries.lookup_reverse hr.nodup', hr.get?, hi]

namespace Client

open Selection

variable {names names' : List String} {answer answer' : Answer}

theorem recordsOf_alike (hs : ∀ name, name ∈ names ↔ name ∈ names') (h : answer.Alike answer') :
    List.Forall₂ Record.Alike (recordsOf (some names) answer)
      (recordsOf (some names') answer') := by
  cases h
  case ended => exact .nil
  case found rows rows' h =>
    simp only [recordsOf, Option.elim_some, List.forall₂_map_left_iff, List.forall₂_map_right_iff]
    refine h.imp fun row row' hr => ⟨Entries.nodup_ofList _, Entries.nodup_ofList _, fun name => ?_⟩
    simp only [Response.get?_record, hs, hr name]

theorem status_deliver_congr (h : answer.Alike answer') (record : Record) (records : List Record) :
    (deliverRecord (some names) record answer).1 =
      (deliverRecord (some names') record answer').1 ∧
    (deliverRecords (some names) records answer).1 =
      (deliverRecords (some names') records answer').1 := by
  cases h
  case ended => exact ⟨rfl, rfl⟩
  case found h => cases h <;> exact ⟨rfl, rfl⟩

theorem collect_of_agree {α : Type} {o o' : Outcome Answer}
    (h : Agree Failure.nature Answer.Alike o.result o'.result) (into : α)
    (deliver deliver' : Answer → Status × α) :
    ((collect o into deliver).1.result.mapError Failure.nature =
        (collect o' into deliver').1.result.mapError Failure.nature ∧
      (collect o into deliver).2 = into ∧ (collect o' into deliver').2 = into) ∨
    ∃ answer answer', answer.Alike answer' ∧
      (collect o into deliver).1.result = .ok (deliver answer).1 ∧
      (collect o' into deliver').1.result = .ok (deliver' answer').1 ∧
      (collect o into deliver).2 = (deliver answer).2 ∧
      (collect o' into deliver').2 = (deliver' answer').2 := by
  obtain ⟨result, log, service⟩ := o
  obtain ⟨result', log', service'⟩ := o'
  cases h
  case error he => exact .inl ⟨congrArg Except.error he.symm, rfl, rfl⟩
  case ok ha => exact .inr ⟨_, _, ha, rfl, rfl, rfl, rfl⟩

section

variable (c : Client) (s : Service) (hn : names ≠ []) (hf : ∀ name ∈ names, name ≠ "")
  (hs : ∀ name, name ∈ names ↔ name ∈ names')
  (hd : s.queue = [] → ∀ e ∈ s.documents, e.2.toJson.isFloatFree = true)
include hn hf hs hd

theorem read_congr (type id : String) (into : Record) :
    (c.read s type id (some names) into).1.result.mapError Failure.nature =
        (c.read s type id (some names') into).1.result.mapError Failure.nature ∧
      ∀ name, (c.read s type id (some names) into).2.get? name =
        (c.read s type id (some names') into).2.get? name := by
  have ha := ask_agree hn hf hs c s hd ⟨type.toList, .equal, id.toList, none, none⟩
    (parse?_lookup type id names) (parse?_lookup type id names')
  rcases collect_of_agree ha into (deliverRecord (some names) into)
    (deliverRecord (some names') into)
    with ⟨he, hi, hi'⟩ | ⟨answer, answer', ha, ho, ho', hi, hi'⟩
  case inl => exact ⟨he, fun name => congrArg (Entries.get? · name) (hi.trans hi'.symm)⟩
  case inr =>
    rw [deliverRecord_eq] at hi hi'
    rw [read, read, Option.getD_some, Option.getD_some, ho, ho', hi, hi',
      (status_deliver_congr ha into []).left]
    exact ⟨rfl, Record.get?_foldl_update_congr (recordsOf_alike hs ha) fun _ => rfl⟩

theorem scan_congr (type start : String) (count : Int) (into : List Record) :
    (c.scan s type start count (some names) into).1.result.mapError Failure.nature =
        (c.scan s type start count (some names') into).1.result.mapError Failure.nature ∧
      ∃ added added', (c.scan s type start count (some names) into).2 = into ++ added ∧
        (c.scan s type start count (some names') into).2 = into ++ added' ∧
        List.Forall₂ Record.Alike added added' := by
  rw [scan_eq, scan_eq]
  rcases rangeText_alike type start count names names' with ⟨fault, ht, ht'⟩ | ⟨n, rfl, hl⟩
  case inl =>
    rw [Option.getD_some, Option.getD_some, ht, ht']
    exact ⟨rfl, [], [], by simp, by simp, .nil⟩
  case inr =>
    have ⟨q, hr, ht⟩ := rangeText_natCast type start hl names
    have ⟨q', hr', ht'⟩ := rangeText_natCast type start hl names'
    have ha := ask_agree hn hf hs c s hd ⟨type.toList, .atLeast, start.toList, _, none⟩
      (parse?_range hr) (parse?_range hr')
    rw [Option.getD_some, Option.getD_some, ht, ht']
    rcases collect_of_agree ha into (deliverRecords (some names) into)
      (deliverRecords (some names') into)
      with ⟨he, hi, hi'⟩ | ⟨answer, answer', ha, ho, ho', hi, hi'⟩
    case inl => exact ⟨he, [], [], by simp [hi], by simp [hi'], .nil⟩
    case inr =>
      rw [deliverRecords_eq] at hi hi'
      rw [ho, ho', (status_deliver_congr ha [] into).right]
      exact ⟨rfl, _, _, hi, hi', recordsOf_alike hs ha⟩

end

-- Of the fields that are asked for, only the set matters to what is delivered, whatever texts they
-- are and whoever asks. With any list of the same names a read has the same status, or fails with
-- an error of the same kind, and leaves the same in the record; and a scan has the same status, or
-- fails so, and adds as many records, in pairs that are the same.
theorem fields_are_set (c : Client) (s : Service) {names names' : List String} (hn : names ≠ [])
    (hf : ∀ name ∈ names, name ≠ "") (hs : ∀ name, name ∈ names ↔ name ∈ names')
    (hd : s.queue = [] → ∀ e ∈ s.documents, e.2.toJson.isFloatFree = true)
    (type id start : String) (count : Int) (record : Record) (records : List Record) :
    ((c.read s type id (some names) record).1.result.mapError Failure.nature =
        (c.read s type id (some names') record).1.result.mapError Failure.nature ∧
      ∀ name, (c.read s type id (some names) record).2.get? name =
        (c.read s type id (some names') record).2.get? name) ∧
    (c.scan s type start count (some names) records).1.result.mapError Failure.nature =
        (c.scan s type start count (some names') records).1.result.mapError Failure.nature ∧
      ∃ added added', (c.scan s type start count (some names) records).2 = records ++ added ∧
        (c.scan s type start count (some names') records).2 = records ++ added' ∧
        List.Forall₂ Record.Alike added added' :=
  ⟨read_congr c s hn hf hs hd type id record, scan_congr c s hn hf hs hd type start count records⟩

theorem fields_are_set_catalogue :
    ["x", "y,_id"] ≠ [] ∧ (∀ name ∈ ["x", "y,_id"], name ≠ "") ∧
    (∀ name, name ∈ ["x", "y,_id"] ↔ name ∈ ["y,_id", "x", "y,_id"]) ∧
    (catalogue.queue = [] → ∀ e ∈ catalogue.documents, e.2.toJson.isFloatFree = true) ∧
    (librarian.start.1.read catalogue "t" "b" (some ["x", "y,_id"])
      [("y,_id", "")]).2.get? "x" = some "-7" ∧
    (librarian.start.1.read catalogue "t" "b" (some ["y,_id", "x", "y,_id"])
      [("y,_id", "")]).2.get? "x" = some "-7" ∧
    (librarian.start.1.scan catalogue "t" "a" 2 (some ["x", "y,_id"]) []).2.length =
      (librarian.start.1.scan catalogue "t" "a" 2 (some ["y,_id", "x", "y,_id"]) []).2.length := by
  have hf : ∀ name ∈ ["x", "y,_id"], name ≠ "" := by decide
  have hs : ∀ name, name ∈ ["x", "y,_id"] ↔ name ∈ ["y,_id", "x", "y,_id"] := by
    intro name
    simp only [List.mem_cons, List.not_mem_nil]
    tauto
  have hd : ∀ e ∈ catalogue.documents, e.2.toJson.isFloatFree = true := by decide
  have hp : ∀ e ∈ catalogue.documents, e.2.IsPassable "t" := by
    simp only [catalogue, List.forall_mem_cons]
    exact ⟨⟨_, rfl, fun _ => ⟨_, rfl⟩⟩, ⟨_, rfl, fun _ => ⟨_, rfl⟩⟩, ⟨_, rfl, fun _ => ⟨_, rfl⟩⟩,
      ⟨_, rfl, fun _ => ⟨_, rfl⟩⟩, ⟨_, rfl, fun _ => ⟨_, rfl⟩⟩, nofun⟩
  have hh : ∀ d ∈ homonyms "t" "b" catalogue.documents,
      (returned ["x", "y,_id"] d).toJson.isCarried = true ∧
        (returned ["x", "y,_id"] d).IsShallow catalogue.stack := by
    decide +kernel
  have ⟨_, hr⟩ := (@read_of_ready librarian.start.1 catalogue ["x", "y,_id"]
    (ready_of_isPlain isPlain_librarian) rfl "t" hp "b" [("y,_id", "")]).right (by decide)
    (by decide) hh
  have hx : (librarian.start.1.read catalogue "t" "b" (some ["x", "y,_id"])
      [("y,_id", "")]).2.get? "x" = some "-7" := by
    rw [hr]
    decide +kernel
  obtain ⟨⟨_, hg⟩, _, added, added', ha, ha', hl⟩ := fields_are_set librarian.start.1 catalogue
    (by simp) hf hs (fun _ => hd) "t" "b" "a" 2 [("y,_id", "")] []
  refine ⟨by simp, hf, hs, fun _ => hd, hx, (hg "x").symm.trans hx, ?_⟩
  rw [ha, ha', List.nil_append, List.nil_append, hl.length_eq]

end Client

end DocStore
