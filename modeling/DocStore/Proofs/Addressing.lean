import DocStore.Proofs.Client.Unchanged
import DocStore.Proofs.KeyedStore.Ids

namespace DocStore

open KeyedStore
open Mutation (envelope payloadOf)

namespace KeyedStore

theorem mem_documents {s : KeyedStore} {key : Key} {d : Document} (h : (key, d) ∈ s.documents) :
    ∃ e ∈ s, key = .text e.1 ∧ d = e.2.document := by
  have ⟨e, he, hk⟩ := List.mem_map.mp h
  cases hk
  exact ⟨e, he, rfl, rfl⟩

theorem field?_id_eq_some {r : Record} {id : JsonText} :
    r.document.field? "_id" = some (.text id) ↔ r.get? "_id" = some id := by
  simp [Record.field?_document]

section

variable {moved : JsonText → JsonText → Prop} {s : KeyedStore} (hs : s.IsTracked moved)
include hs

theorem id_of_mem {key : Key} {d : Document} (h : (key, d) ∈ s.documents) :
    ∃ k id : JsonText, key = .text k ∧ d.field? "_id" = some (.text id) ∧
      (id = k ∨ moved k id) := by
  have ⟨e, he, hk, hd⟩ := mem_documents h
  have ⟨id, hi⟩ := (hs.documents e he).id
  exact ⟨e.1, id, hk, hd ▸ field?_id_eq_some.mpr hi, hs.id e he id hi⟩

variable (hm : ∀ key id, moved key id → id = key)
include hm

theorem id_eq_key {e : JsonText × Record} (he : e ∈ s) : e.2.get? "_id" = some e.1 := by
  have ⟨id, hi⟩ := (hs.documents e he).id
  rcases hs.id e he id hi with rfl | hk
  case inl => exact hi
  case inr => rw [hi, hm e.1 id hk]

theorem nodup_ids : (s.documents.map fun e => e.2.field? "_id").Nodup := by
  have hk : s.documents.map (fun e => e.2.field? "_id") =
      (s.map Prod.fst).map fun key => some (.text key) := by
    rw [KeyedStore.documents, List.map_map, List.map_map]
    apply List.map_congr_left
    intro e he
    exact field?_id_eq_some.mpr <| id_eq_key hs hm he
  rw [hk]
  exact List.Pairwise.map _ (fun _ _ hn he => hn <| by simpa using he) hs.nodup

-- What stands under a key is what has it for an id.
theorem get?_documents_iff (id : JsonText) (d : Document) :
    s.documents.get? (.text id) = some d ↔
      d ∈ s.documents.map Prod.snd ∧ d.field? "_id" = some (.text id) where
  mp h := by
    rw [Service.get?_documents] at h
    have ⟨r, hr, hd⟩ := Option.map_eq_some_iff.mp h
    have he := Entries.mem_of_get?_eq_some hr
    have hi := field?_id_eq_some.mpr <| id_eq_key hs hm he
    exact hd ▸ ⟨List.mem_map_of_mem (List.mem_map_of_mem he), hi⟩
  mpr := by
    rintro ⟨h, hi⟩
    have ⟨⟨key, _⟩, h, hd⟩ := List.mem_map.mp h
    have ⟨e, he, _, he'⟩ := mem_documents h
    rw [← hd, he', field?_id_eq_some, id_eq_key hs hm he, Option.some.injEq] at hi
    have hr : s.get? id = some e.2 := Entries.get?_of_mem hs.nodup <| hi ▸ he
    rw [Service.get?_documents, hr, ← hd, he', Option.map_some]

end

end KeyedStore

namespace Service

-- A mutation that is sent is carried out on a store, or not at all.
theorem documents_send_mutation {s : Service} {r : Request} {store : KeyedStore}
    {kind : MutationKind} {type id : String} {fields : Record}
    (hd : s.documents = store.documents) (hm : r.method = "POST")
    (hb : bodyJson s.stack r "\x7b\x7d" =
      .ok (envelope kind (payloadOf kind type id fields.members))) :
    (s.send r).1.documents = store.documents ∨
      (s.send r).1.documents = (store.mutate kind type id fields).2.documents := by
  cases hq : s.queue
  case nil =>
    rw [send_of_queue_nil hq]
    rcases answer_of_post s.token s.stack hm with ha | ⟨_, ha, _⟩
    case inl =>
      have ⟨_, he, _⟩ := answerMutate_documents kind type id fields hb store
      exact .inr <| by rw [ha, hd, he]
    case inr => exact .inl <| by rw [ha, hd]
  case cons => exact .inl <| by rw [send_of_queue_cons hq, hd]

end Service

namespace Client

variable {c : Client} {s : Service} {store : KeyedStore}

theorem documents_change {m : Edit} {o : Outcome Status} (h : Change c s m.mutation o)
    (hd : s.documents = store.documents) :
    o.service.documents = store.documents ∨
      ∃ fields, Edit.texts m.values = .ok fields ∧
        o.service.documents =
          (store.mutate m.kind m.type m.id (Entries.ofList fields)).2.documents := by
  cases h
  case notReady => exact .inl hd
  case badBytes => exact .inl hd
  case submitted σ payload parameters hσ hp =>
    have ⟨fields, ht, hr⟩ := m.read_payload hp
    rw [submit, service_andThen]
    rcases c.service_exchange s "POST" σ.mutateAddress parameters _ with he | ⟨_, r, hp, he⟩
    case inl => exact .inl <| by rw [he, hd]
    case inr =>
      have hs := Service.documents_send_mutation hd (Request.method_of_post rfl hp)
        (bodyJson_of_draft (hr s.stack) hp _)
      exact he ▸ hs.imp_right fun h => ⟨fields, ht, h⟩

theorem change_tracked {moved : JsonText → JsonText → Prop} {m : Edit} {o : Outcome Status}
    (h : Change c s m.mutation o) (hd : s.documents = store.documents) (hs : store.IsTracked moved)
    (hm : m.kind = .patch → ∀ value id, ("_id", value) ∈ m.values → value.toText = .ok id →
      moved m.id id.paired) :
    ∃ store : KeyedStore, o.service.documents = store.documents ∧ store.IsTracked moved := by
  rcases documents_change h hd with he | ⟨fields, ht, he⟩
  case inl => exact ⟨store, he, hs⟩
  case inr =>
    have hu := Edit.isUnpaired_ofList_texts ht
    refine ⟨_, he, isTracked_mutate hs m.kind m.type m.id hu fun hk id hi => ?_⟩
    rcases Entries.mem_update hi with hi | hi
    case inl => cases hi
    case inr =>
      obtain ⟨value, t, hv, hr, rfl⟩ := Edit.mem_texts ht hi
      exact hm hk value t hv hr

end Client

namespace Bench

variable {moved : JsonText → JsonText → Prop}

-- A service whose documents are those of a store on which ids were moved in some ways.
def IsTracked (moved : JsonText → JsonText → Prop) (s : Service) : Prop :=
  ∃ store : KeyedStore, s.documents = store.documents ∧ store.IsTracked moved

-- The ids that updates of a key give to its document, as JSON reads them.
def Step.Moves (key id : JsonText) : Step → Prop
  | .call _ (.update _ key' values) =>
    .plain key' = key ∧ ∃ value t, ("_id", value) ∈ values ∧ value.toText = .ok t ∧ id = t.paired
  | _ => False

theorem runCall_tracked {s : Service} (hs : IsTracked moved s) (c : Client) {name : String}
    {call : Call} (hm : ∀ key id, (Step.call name call).Moves key id → moved key id) :
    IsTracked moved (runCall c s call).2.2 := by
  have ⟨store, hd, ht⟩ := hs
  cases call
  case start => exact hs
  case stop => exact hs
  case read type id fields into =>
    exact ⟨store, (c.read_unchanged s type id fields into).left.trans hd, ht⟩
  case scan type start count fields into =>
    exact ⟨store, (c.scan_unchanged s type start count fields into).left.trans hd, ht⟩
  case insert type id values =>
    exact Client.change_tracked (m := ⟨_, type, id, values⟩) (c.insert_spec s ..) hd ht nofun
  case update type id values =>
    refine Client.change_tracked (m := ⟨.patch, type, id, values⟩) (c.post_spec s _) hd ht ?_
    exact fun _ value t hv hi => hm id t.paired ⟨rfl, value, t, hv, hi, rfl⟩
  case delete type id =>
    exact Client.change_tracked (m := ⟨.delete, type, id, []⟩) (c.post_spec s _) hd ht nofun

theorem step_tracked {b : Bench} {step : Step} (hb : IsTracked moved b.service)
    (hr : ∀ draft, step ≠ .request draft) (hm : ∀ key id, step.Moves key id → moved key id) :
    IsTracked moved (b.step step).2.service := by
  cases step
  case enter => exact hb
  case call name call =>
    rw [Bench.step]
    split
    case h_1 => exact hb
    case h_2 c _ => exact runCall_tracked hb c hm
  case enqueue => exact hb
  case request draft => exact absurd rfl (hr draft)
  case clear => exact ⟨[], rfl, isTracked_nil⟩

theorem run_tracked {b : Bench} {steps : List Step} (hb : IsTracked moved b.service)
    (hr : ∀ draft, .request draft ∉ steps)
    (hm : ∀ step ∈ steps, ∀ key id, step.Moves key id → moved key id) :
    IsTracked moved (b.run steps).2.service := by
  induction steps generalizing b
  case nil => exact hb
  case cons step steps hi =>
    rw [List.forall_mem_cons] at hm
    have hs := step_tracked hb (fun draft h => hr draft <| h ▸ List.mem_cons_self) hm.left
    exact hi hs (fun draft h => hr draft <| List.mem_cons_of_mem _ h) hm.right

-- In every run of clients on a service that has no documents at first, each document has its key
-- for an id, or one that an update of the key has given to it. Where updates give documents no
-- other ids than their keys, what stands under a key is what has it for an id, and no id is there
-- twice.
theorem run_ids (b : Bench) (steps : List Step) (hd : b.service.documents = [])
    (hr : ∀ draft, .request draft ∉ steps) :
    let documents := (b.run steps).2.service.documents
    (∀ key d, (key, d) ∈ documents → ∃ k id : JsonText, key = .text k ∧
      d.field? "_id" = some (.text id) ∧ (id = k ∨ ∃ step ∈ steps, step.Moves k id)) ∧
    ((∀ step ∈ steps, ∀ key id, step.Moves key id → id = key) →
      (∀ key d, (key, d) ∈ documents → ∃ k : JsonText, key = .text k ∧
        d.field? "_id" = some (.text k)) ∧
      (documents.map fun e => e.2.field? "_id").Nodup ∧
      ∀ (id : JsonText) (d : Document), documents.get? (.text id) = some d ↔
        d ∈ documents.map Prod.snd ∧ d.field? "_id" = some (.text id)) := by
  have ⟨store, he, hs⟩ : IsTracked (fun key id => ∃ step ∈ steps, step.Moves key id)
      (b.run steps).2.service :=
    run_tracked ⟨[], hd, isTracked_nil⟩ hr fun step hm key id h => ⟨step, hm, h⟩
  rw [he]
  refine ⟨fun key d h => id_of_mem hs h, fun hn => ?_⟩
  have hm key id : (∃ step ∈ steps, step.Moves key id) → id = key :=
    fun ⟨step, h, hs⟩ => hn step h key id hs
  refine ⟨fun key d h => ?_, nodup_ids hs hm, get?_documents_iff hs hm⟩
  have ⟨k, id, hk, hi, h⟩ := id_of_mem hs h
  have hk' : id = k := h.elim (fun h => h) (hm k id)
  exact ⟨k, hk, hk' ▸ hi⟩

def tame : List Step :=
  [.enter "a" { properties := [("sanity.dataset", .text "main")] }, .call "a" .start,
   .call "a" (.insert "t" "k" [("_id", .text "i")]),
   .call "a" (.update "t" "i" [("_id", .bytes [0x69]), ("f", .text "v")])]

theorem run_ids_tame :
    (∀ draft, .request draft ∉ tame) ∧
    (∀ step ∈ tame, ∀ key id, step.Moves key id → id = key) ∧
    (run {} tame).2.service.documents.map Prod.fst = [.text "i"] ∧
    ∀ d, (run {} tame).2.service.documents.get? (.text "i") = some d →
      d.field? "_id" = some (.text "i") := by
  have hr : ∀ draft, .request draft ∉ tame := by simp [tame]
  have ht : (FieldInput.bytes [0x69]).toText = .ok "i" := by decide
  have hm : ∀ step ∈ tame, ∀ key id, step.Moves key id → id = key := by
    simp [tame, Step.Moves, ht]
  have ⟨_, _, hi⟩ := (run_ids {} tame rfl hr).right hm
  exact ⟨hr, hm, by decide +kernel, fun d hd => ((hi "i" d).mp hd).right⟩

-- But an update sets the id in a document without putting it under another key.
def drift : List Step :=
  [.enter "a" { properties := [("sanity.dataset", .text "main")] }, .call "a" .start,
   .call "a" (.insert "t" "k" []), .call "a" (.insert "t" "x" []),
   .call "a" (.update "t" "k" [("_id", .text "x")])]

theorem run_drift :
    (∀ draft, .request draft ∉ drift) ∧
    (run {} drift).2.service.documents.map
        (fun e => (e.1, (e.2.field? "_id").bind Json.string?)) =
      [(.text "k", some "x"), (.text "x", some "x")] :=
  ⟨by simp [drift], by decide +kernel⟩

end Bench

end DocStore
