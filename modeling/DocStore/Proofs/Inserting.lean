import DocStore.Proofs.Client.Operations

namespace DocStore

namespace Mutation

-- The text of the last value under a name, as JSON reads it.
def textOf? (values : List (String × FieldInput)) (name : String) : Option JsonText :=
  values.reverse.findSome? fun e =>
    if name = e.1 then e.2.toText.toOption.map JsonText.paired else none

def overridden (values : List (String × FieldInput)) (name given : String) : JsonText :=
  (textOf? values name).getD given

theorem overridden_of_not_mem {values : List (String × FieldInput)} {name : String}
    (h : name ∉ values.map Prod.fst) (given : String) : overridden values name given = given := by
  have ht : textOf? values name = none := by
    refine List.findSome?_eq_none_iff.mpr fun e he => if_neg ?_
    rintro rfl
    exact h <| List.mem_map_of_mem <| List.mem_reverse.mp he
  rw [overridden, ht, Option.getD_none]

theorem lookup_texts {values : List (String × FieldInput)} {fields : List (String × JsonText)}
    (h : Edit.texts values = .ok fields) (name : String) :
    fields.reverse.lookup name = textOf? values name := by
  induction values generalizing fields
  case nil =>
    cases h
    rfl
  case cons e values hi =>
    obtain ⟨t, rest, hs, ht, rfl⟩ := Edit.texts_cons_eq_ok h
    rw [textOf?, List.reverse_cons, List.reverse_cons, List.lookup_append, List.findSome?_append,
      hi ht]
    congr 1
    rw [List.lookup_cons]
    by_cases hn : name = e.1
    case pos => simp [hn, hs, Except.toOption]
    case neg => simp [beq_false_of_ne hn, hn]

theorem get?_record {values : List (String × FieldInput)} {fields : List (String × JsonText)}
    (h : Edit.texts values = .ok fields) (type key name : String) :
    (KeyedStore.record type key (Entries.ofList fields)).get? name =
      (textOf? values name).or
        (Entries.get? [("_id", JsonText.plain key), ("_type", .plain type)] name) := by
  rw [KeyedStore.record, Entries.get?_update_eq, Entries.lookup_reverse (Entries.nodup_ofList _),
    Entries.ofList, Entries.get?_update_eq, lookup_texts h]
  exact congrArg (Option.or · _) Option.or_none

theorem get?_record_given {values : List (String × FieldInput)}
    {fields : List (String × JsonText)} (h : Edit.texts values = .ok fields)
    {type key name given : String}
    (hg : Entries.get? [("_id", JsonText.plain key), ("_type", .plain type)] name =
      some (.plain given)) :
    (KeyedStore.record type key (Entries.ofList fields)).get? name =
      some (overridden values name given) := by
  rw [get?_record h, hg, overridden]
  exact Option.or_some

end Mutation

open Mutation (envelope overridden)

namespace Service

-- A document that is created goes under its id, or nowhere.
theorem documents_send_of_create {s : Service} {r : Request} {mode : CreateMode} {payload : Record}
    {id : JsonText} (hm : r.method = "POST") (hi : payload.get? "_id" = some id)
    (hb : bodyJson s.stack r "\x7b\x7d" = .ok (envelope (.create mode) payload.members)) :
    (s.send r).1.documents = s.documents ∨
      (s.send r).1.documents = s.documents.put (.text id) payload.document := by
  cases hq : s.queue
  case nil =>
    rw [send_of_queue_nil hq]
    rcases answer_of_post s.token s.stack hm with ha | ⟨_, ha, _⟩
    case inl =>
      rw [ha, answerMutate_envelope hb, applyKind_name]
      simp only [create_members hi]
      split
      case h_1 => exact .inl rfl
      case h_2 => exact .inl rfl
      case h_3 => exact .inr rfl
    case inr => exact .inl <| by rw [ha]
  case cons => exact .inl <| by rw [send_of_queue_cons hq]

end Service

namespace Client

theorem bodyJson_of_insert {c : Client} {r : Request} {type key : String}
    {values : List (String × FieldInput)} (h : c.request? (.insert type key values) = some r)
    (stack : Stack) :
    ∃ payload : Record, r.method = "POST" ∧
      Service.bodyJson stack r "\x7b\x7d" = .ok (envelope (.create c.mode) payload.members) ∧
      payload.get? "_id" = some (overridden values "_id" key) ∧
      payload.get? "_type" = some (overridden values "_type" type) := by
  have ⟨σ, headers, d, hσ, _, hd, hp⟩ := draft?_of_request? h
  have hm : d.method = "POST" := Bench.method_of_draft? hd
  have ⟨fields, ht, hb⟩ := Edit.bodyJson_of_post hd hp
  have hb := hb stack
  simp only [Edit.payloadWith, insertKind_of_settings hσ, Mutation.payloadOf_create] at hb
  exact ⟨_, Request.method_of_post hm hp, hb, Mutation.get?_record_given ht rfl,
    Mutation.get?_record_given ht rfl⟩

end Client

namespace Bench

-- An insert sends a document with the id and the type that it is given, but for fields of these
-- names, and leaves alone what is under other ids than that of the document.
theorem insert_makes (c : Client) (s : Service) (type key : String)
    (values : List (String × FieldInput)) :
    (∀ r, c.request? (.insert type key values) = some r →
      ∃ payload : Record,
        Service.bodyJson s.stack r "\x7b\x7d" = .ok (envelope (.create c.mode) payload.members) ∧
        payload.get? "_id" = some (overridden values "_id" key) ∧
        payload.get? "_type" = some (overridden values "_type" type)) ∧
    ∀ k : Key, k ≠ .text (overridden values "_id" key) →
      (runCall c s (.insert type key values)).2.2.documents.get? k = s.documents.get? k := by
  refine ⟨fun r hr => ?sent, fun k hk => ?kept⟩
  case sent =>
    have ⟨payload, _, h⟩ := Client.bodyJson_of_insert hr s.stack
    exact ⟨payload, h⟩
  case kept =>
    rcases c.runCall_request (.insert type key values) with ⟨_, hs⟩ | ⟨r, _, hr, hs⟩
    case inl => rw [hs]
    case inr =>
      have ⟨payload, hm, hb, hi, _⟩ := Client.bodyJson_of_insert hr s.stack
      have hn : (k == Key.text (overridden values "_id" key)) = false := by
        rw [BEq.comm, Bool.eq_false_iff, Ne, Key.text_beq]
        exact hk
      rw [hs]
      rcases Service.documents_send_of_create (s := s) hm hi hb with hd | hd
      case inl => rw [hd]
      case inr => rw [hd, Entries.get?_put_of_beq_false _ _ hn]

def replacer : Client :=
  (Client.start { properties := [("sanity.dataset", .text "main"),
    ("sanity.mutation.insert", .text "createOrReplace")] }).1

def stocked : Service where
  documents := [(.text "x", [(.text "_id", .text "x"), (.text "_type", .text "t"),
    (.text "f", .text "1")])]

theorem insert_makes_stocked :
    ∃ r, ∃ payload : Record, replacer.request? (.insert "t" "k" [("f", .text "2")]) = some r ∧
      Service.bodyJson stocked.stack r "\x7b\x7d" =
        .ok (envelope (.create replacer.mode) payload.members) ∧
      payload.get? "_id" = some "k" ∧ payload.get? "_type" = some "t" ∧
      Key.text "x" ≠ .text "k" ∧
      (runCall replacer stocked (.insert "t" "k" [("f", .text "2")])).2.2.documents.get?
        (.text "x") = stocked.documents.get? (.text "x") := by
  have ⟨hs, hk⟩ := insert_makes replacer stocked "t" "k" [("f", .text "2")]
  rw [Mutation.overridden_of_not_mem (by decide)] at hs hk
  rw [Mutation.overridden_of_not_mem (by decide)] at hs
  obtain ⟨r, hr⟩ : ∃ r, replacer.request? (.insert "t" "k" [("f", .text "2")]) = some r :=
    Option.isSome_iff_exists.mp (by decide +kernel)
  have ⟨payload, hb, hi, ht⟩ := hs r hr
  have hn : Key.text "x" ≠ .text "k" := by decide
  exact ⟨r, payload, hr, hb, hi, ht, hn, hk _ hn⟩

-- A field that is named as the id is leads elsewhere: nothing is under the key, and the document
-- under the other one has lost its fields.
theorem insert_displaces :
    let documents := (runCall replacer stocked (.insert "t" "k" [("_id", .text "x")])).2.2.documents
    stocked.queue = [] ∧
    stocked.documents.map (Prod.map id (List.map Prod.fst)) =
      [(.text "x", [.text "_id", .text "_type", .text "f"])] ∧
    documents.map (Prod.map id (List.map Prod.fst)) = [(.text "x", [.text "_id", .text "_type"])] :=
  ⟨rfl, rfl, by decide +kernel⟩

end Bench

end DocStore
