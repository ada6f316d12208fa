import DocStore.Proofs.Client.Operations
import DocStore.Proofs.Client.Ready
import DocStore.Proofs.KeyedStore.Calls

namespace DocStore

open KeyedStore Mutation

structure Service.Holds (s : Service) (token : Option String) (store : KeyedStore) : Prop where
  token     : s.token = token
  queue     : s.queue = []
  documents : s.documents = store.documents

structure Meets (o : Outcome Status) (delivery : Bench.Delivery) (reply : Reply) : Prop where
  result   : o.result.map some = reply.result
  delivery : delivery = reply.delivery

namespace Client

variable {c : Client} {s : Service} {token : Option String} {store : KeyedStore}

section

variable (hc : c.Ready token) (hs : s.Holds token store)
include hc hs

theorem ask_holds (q : Query) : (c.ask s q.text).service.Holds token store := by
  have ⟨r, ho⟩ := service_ask_of_ready (hs.token ▸ hc) hs.queue q.text_ne_empty
  rw [ho]
  exact ⟨hs.token, hs.queue, hs.documents⟩

theorem read_holds (table id : String) (fields : Option (List String)) (into : Record) :
    (c.read s table id fields into).1.service.Holds token store := by
  rw [Client.read, service_collect]
  exact ask_holds hc hs _

theorem scan_holds (table start : String) (count : Int) (fields : Option (List String))
    (into : List Record) :
    (c.scan s table start count fields into).1.service.Holds token store := by
  rw [scan_eq]
  rcases Selection.rangeText_cases table start count (fields.getD []) with
    ⟨_, hq⟩ | ⟨_, _, hq⟩ | ⟨n, q, rfl, _, _, hq⟩ <;> rw [hq]
  case inl => exact hs
  case inr.inl => exact hs
  case inr.inr =>
    rw [service_collect]
    exact ask_holds hc hs q

theorem ask_of_parse?_some (hd : store.AreDocuments) {q : Query} {sel : Selection}
    {limit : Option Nat} (hp : Selection.parse? q.text.toList = some sel)
    (hl : sel.limit? = .ok limit) :
    (c.ask s q.text).result =
      .ok (.found ((sel.rows limit (store.map Prod.snd)).map Record.members)) := by
  have ha := hs.documents ▸ Service.answerQuery_documents s.stack hd hp hl
  have ⟨_, hr, hf⟩ := Response.finds_recordsAnswer s.stack q.text <|
    sel.isCarried_rows limit hd.map_snd
  exact ask_of_finds (hs.token ▸ hc) hs.queue q.text_ne_empty ha hr hf

end

-- A projection shapes the rows in such a way that a client picks what it would pick from the
-- records.
def Shapes (names : List String) (shape : Record → Record) : Prop :=
  ∀ r, (shape r).pick names = r.pick names

theorem shapes_shapeRecord {q : Selection} {names : List String}
    (hq : q.fields = Selection.projectionOf names) (hn : Selection.AreSingle names) :
    Shapes names q.shapeRecord := by
  intro r
  rw [Selection.pick_shapeRecord hq, hn.namesOf_eq]

section

variable (hc : c.Ready token) (hs : s.Holds token store) (hd : store.AreDocuments)
  {names : List String} (hn : Selection.AreSingle names)
include hc hs hd hn

theorem ask_lookup (table id : String) :
    ∃ shape, Shapes names shape ∧ (c.ask s (Query.lookup table id names).text).result =
      .ok (.found (((store.withId table id).map shape).map Record.members)) := by
  have hp := Selection.parse?_lookup table id names
  rw [if_neg hn.not_hasBrace] at hp
  have hr := ask_of_parse?_some hc hs hd hp rfl
  rw [rows_equal _ _ rfl, Selection.typeText, Selection.idText, String.ofList_toList,
    String.ofList_toList] at hr
  exact ⟨_, shapes_shapeRecord rfl hn, hr⟩

theorem ask_range {table start : String} {n : Nat} {q : Query}
    (hq : Query.range table start n names = .ok q) (hl : n < Nat.pow 10 Text.digitLimit) :
    ∃ shape, Shapes names shape ∧ (c.ask s q.text).result =
      .ok (.found (((store.range table start n).map shape).map Record.members)) := by
  have hp := Selection.parse?_range hq
  rw [if_neg hn.not_hasBrace] at hp
  have hr := ask_of_parse?_some hc hs hd hp <| Selection.limit?_toDigits hl rfl
  rw [rows_atLeast _ _ rfl, Selection.typeText, Selection.idText, String.ofList_toList,
    String.ofList_toList] at hr
  exact ⟨_, shapes_shapeRecord rfl hn, hr⟩

end

theorem deliverRecord_found {fields : Option (List String)} {shape : Record → Record}
    (hs : Shapes (fields.getD []) shape) (into : Record) (rs : List Record) :
    deliverRecord fields into (.found ((rs.map shape).map Record.members)) =
      match rs, fields with
      | [], _ => (.notFound, into)
      | _, none => (.ok, into)
      | found, some fields =>
        (.ok, found.foldl (fun into r => into.update (r.pick fields)) into) := by
  cases rs
  case nil => rfl
  case cons r rs =>
    cases fields
    case none => rfl
    case some fields =>
      have hr (r : Record) : (shape r).pick fields = r.pick fields := hs r
      simp [deliverRecord, Response.record_members, hr, List.foldl_map]

theorem deliverRecords_found {fields : Option (List String)} {shape : Record → Record}
    (hs : Shapes (fields.getD []) shape) (into rs : List Record) :
    deliverRecords fields into (.found ((rs.map shape).map Record.members)) =
      match fields with
      | none => (.ok, into)
      | some fields => (.ok, into ++ rs.map (·.pick fields)) := by
  cases fields
  case none => rfl
  case some fields =>
    have hr (r : Record) : (shape r).pick fields = r.pick fields := hs r
    simp [deliverRecords, Response.record_members, hr, Function.comp_def]

section

variable (hc : c.Ready token) (hs : s.Holds token store) (hd : store.AreDocuments)
include hc hs hd

theorem read_refines (table id : String) {fields : Option (List String)}
    (hn : Selection.AreSingle (fields.getD [])) (into : Record) :
    Meets (c.read s table id fields into).1 (.record (c.read s table id fields into).2)
      (store.call c.mode (.read table id fields into)) := by
  obtain ⟨shape, hf, hr⟩ := ask_lookup hc hs hd hn table id
  unfold Client.read KeyedStore.call KeyedStore.read
  simp only [collect, hr, deliverRecord_found hf]
  rcases store.withId table id with _ | _ <;> cases fields <;> exact ⟨rfl, rfl⟩

theorem scan_refines (table start : String) {count : Int}
    (hl : count.toNat < Nat.pow 10 Text.digitLimit) {fields : Option (List String)}
    (hn : Selection.AreSingle (fields.getD [])) (into : List Record) :
    Meets (c.scan s table start count fields into).1
      (.records (c.scan s table start count fields into).2)
      (store.call c.mode (.scan table start count fields into)) := by
  by_cases h : count < 0
  case pos =>
    rw [scan_eq, Selection.rangeText, Selection.range_of_neg table start h, KeyedStore.call,
      if_pos h]
    exact ⟨rfl, rfl⟩
  case neg =>
    obtain ⟨q, hq, ht⟩ := Selection.rangeText_natCast table start hl (fields.getD [])
    obtain ⟨shape, hf, hr⟩ := ask_range hc hs hd hn hq hl
    rw [Int.toNat_of_nonneg (Int.not_lt.mp h)] at ht
    rw [scan_eq, ht, KeyedStore.call, if_neg h]
    unfold KeyedStore.scan
    simp only [collect, hr, deliverRecords_found hf]
    cases fields <;> exact ⟨rfl, rfl⟩

end

theorem submit_refines (hc : c.Ready token) (hs : s.Holds token store) {σ : Settings}
    (hσ : c.settings = some σ) {kind : MutationKind} {table key body : String} {fields : Record}
    (hb : Json.read s.stack body = .ok (envelope kind (payloadOf kind table key fields.members)))
    (parameters : List (String × String)) :
    (c.submit s σ.mutateAddress body parameters).result =
        .ok (store.mutate kind table key fields).1 ∧
      (c.submit s σ.mutateAddress body parameters).service.Holds token
        (store.mutate kind table key fields).2 := by
  have ⟨σ', headers, hσ', hh, _, hr⟩ := hc
  cases hσ.symm.trans hσ'
  have ⟨_, ho, hs'⟩ := submit_of_ready hh (hs.token ▸ hr) hs.queue hb hs.documents parameters
  exact ⟨ho, hs' ▸ ⟨hs.token, hs.queue, rfl⟩⟩

theorem change_refines (hc : c.Ready token) (hs : s.Holds token store) (hd : store.AreDocuments)
    {m : Edit} {o : Outcome Status} (h : Change c s m.mutation o) :
    let reply := store.write m.values (store.mutate m.kind m.type m.id ·)
    Meets o .nothing reply ∧ o.service.Holds token reply.store ∧ reply.store.AreDocuments := by
  unfold KeyedStore.write
  cases h
  case notReady hn =>
    have ⟨_, _, hσ, _⟩ := hc
    cases hn.symm.trans hσ
  case badBytes hp =>
    rw [Edit.texts_of_payload_error hp]
    exact ⟨⟨rfl, rfl⟩, hs, hd⟩
  case submitted parameters hσ hp =>
    have ⟨fields, ht, hr⟩ := m.read_payload hp
    have ⟨ho, hs'⟩ := submit_refines hc hs hσ (hr s.stack) parameters
    have hu := Edit.isUnpaired_ofList_texts ht
    rw [ht]
    exact ⟨⟨congrArg (Except.map some) ho, rfl⟩, hs', areDocuments_mutate hd m.kind m.type m.id hu⟩

end Client

end DocStore
