import DocStore.Bench
import DocStore.Proofs.Client.Exchange

namespace DocStore

open Mutation

namespace Service

variable {s : Service} {r : Request}

theorem documents_send_of_get (h : r.method = "GET") : (s.send r).1.documents = s.documents := by
  cases hq : s.queue
  case nil => rw [send_of_queue_nil hq, answer_of_get _ _ h]
  case cons => rw [send_of_queue_cons hq]

theorem documents_send_of_post {kind : MutationKind} {type id : String} {fields : Record}
    (hm : r.method = "POST")
    (hb : bodyJson s.stack r "\x7b\x7d" =
      .ok (envelope kind (payloadOf kind type id fields.members))) :
    (s.send r).1.documents = s.documents ∨
      ∃ response, (s.send r).2 = .ok response ∧ .ofCode response.code = Status.ok := by
  cases hq : s.queue
  case nil =>
    rw [send_of_queue_nil hq]
    rcases answer_of_post s.token s.stack hm with ha | ⟨_, ha, _⟩
    case inl =>
      have ⟨answer, hr, hw, h⟩ := answerMutate_unchanged kind type id fields hb s.documents
      rw [ha, hr]
      rcases h with h | h
      case inl => exact .inr ⟨_, hw.response s.stack, h⟩
      case inr => exact .inl h
    case inr => exact .inl <| by rw [ha]
  case cons => exact .inl <| by rw [send_of_queue_cons hq]

end Service

namespace Client

variable (c : Client) (s : Service)

theorem documents_ask (query : String) : (c.ask s query).service.documents = s.documents := by
  unfold ask
  split
  case h_1 => rfl
  case h_2 settings _ =>
    rw [service_andThen]
    rcases c.service_exchange s "GET" settings.queryAddress [("query", query)] none with
      h | ⟨_, _, hp, h⟩
    case inl => rw [h]
    case inr => rw [h, Service.documents_send_of_get <| Request.method_of_get rfl hp]

theorem documents_submit {kind : MutationKind} {type id body : String} {fields : Record}
    (h : Json.read s.stack body = .ok (envelope kind (payloadOf kind type id fields.members)))
    (address : String) (parameters : List (String × String)) :
    (c.submit s address body parameters).service.documents = s.documents ∨
      (c.submit s address body parameters).result = .ok .ok := by
  unfold submit
  have he := exchange_spec c s "POST" address parameters (some body)
  revert he
  generalize c.exchange s "POST" address parameters (some body) = o
  intro he
  cases he
  case notReady => exact .inl rfl
  case rejected => exact .inl rfl
  case failed hp hr =>
    have hd := Service.documents_send_of_post (s := s) (Request.method_of_post rfl hp)
      (bodyJson_of_draft h hp _)
    rcases hd with hd | ⟨_, hd, _⟩
    case inl => exact .inl hd
    case inr => cases hr.symm.trans hd
  case unlogged hp hr ho =>
    have hd := Service.documents_send_of_post (s := s) (Request.method_of_post rfl hp)
      (bodyJson_of_draft h hp _)
    rcases hd with hd | ⟨_, hd, hc⟩
    case inl => exact .inl hd
    case inr =>
      cases hr.symm.trans hd
      have hc := Status.ofCode_eq_ok_iff.mp hc
      rw [Text.isOverlong_of_lt (by omega)] at ho
      cases ho
  case received hp hr _ =>
    have hd := Service.documents_send_of_post (s := s) (Request.method_of_post rfl hp)
      (bodyJson_of_draft h hp _)
    rcases hd with hd | ⟨_, hd, hc⟩
    case inl => exact .inl hd
    case inr =>
      cases hr.symm.trans hd
      exact .inr <| congrArg Except.ok hc

theorem documents_of_change (m : Edit) {o : Outcome Status} (h : Change c s m.mutation o) :
    o.service.documents = s.documents ∨ o.result = .ok .ok := by
  cases h
  case notReady => exact .inl rfl
  case badBytes => exact .inl rfl
  case submitted hp =>
    have ⟨_, _, hr⟩ := m.read_payload hp
    exact documents_submit c s (hr s.stack) ..

variable {α : Type} (o : Outcome Answer) (into : α) (deliver : Answer → Status × α)

theorem service_collect : (collect o into deliver).1.service = o.service := by
  unfold collect
  split <;> rfl

-- Nothing is delivered by halves: an answer of another status delivers what there was.
theorem collect_unchanged (hd : ∀ answer, (deliver answer).1 ≠ .ok → (deliver answer).2 = into)
    (h : (collect o into deliver).1.result ≠ .ok .ok) : (collect o into deliver).2 = into := by
  unfold collect at h ⊢
  split
  case h_1 => rfl
  case h_2 answer ha =>
    rw [ha] at h
    exact hd answer fun hs => h <| congrArg Except.ok hs

theorem deliverRecord_unchanged {fields : Option (List String)} {into : Record} {answer : Answer}
    (h : (deliverRecord fields into answer).1 ≠ .ok) :
    (deliverRecord fields into answer).2 = into := by
  unfold deliverRecord at h ⊢
  repeat' split
  all_goals simp_all

theorem deliverRecords_unchanged {fields : Option (List String)} {into : List Record}
    {answer : Answer} (h : (deliverRecords fields into answer).1 ≠ .ok) :
    (deliverRecords fields into answer).2 = into := by
  unfold deliverRecords at h ⊢
  repeat' split
  all_goals simp_all

theorem read_unchanged (type id : String) (fields : Option (List String)) (into : Record) :
    (c.read s type id fields into).1.service.documents = s.documents ∧
      ((c.read s type id fields into).1.result ≠ .ok .ok →
        (c.read s type id fields into).2 = into) := by
  unfold read
  rw [service_collect]
  exact ⟨documents_ask c s _, collect_unchanged _ _ _ fun _ => deliverRecord_unchanged⟩

theorem scan_unchanged (type start : String) (count : Int) (fields : Option (List String))
    (into : List Record) :
    (c.scan s type start count fields into).1.service.documents = s.documents ∧
      ((c.scan s type start count fields into).1.result ≠ .ok .ok →
        (c.scan s type start count fields into).2 = into) := by
  unfold scan
  split
  case h_1 => exact ⟨rfl, fun _ => rfl⟩
  case h_2 =>
    split
    case h_1 => exact ⟨rfl, fun _ => rfl⟩
    case h_2 =>
      rw [service_collect]
      exact ⟨documents_ask c s _, collect_unchanged _ _ _ fun _ => deliverRecords_unchanged⟩

end Client

namespace Bench

def Call.untouched : Call → Delivery
  | .read _ _ _ into => .record into
  | .scan _ _ _ _ into => .records into
  | _ => .nothing

def Call.isQuery : Call → Bool
  | .read .. => true
  | .scan .. => true
  | _ => false

theorem ne_ok_of_map_some {result : Except Failure Status}
    (h : result.map some ≠ .ok (some .ok)) : result ≠ .ok .ok :=
  fun he => h <| congrArg (Except.map some) he

-- For every client and every service: a call that fails, or that ends with another status than
-- success, leaves the documents and the records of its caller as they were. Reads and scans never
-- change documents.
theorem runCall_unchanged (c : Client) (s : Service) (call : Call) :
    ∃ result log delivery c' s',
      runCall c s call = (.call result log delivery, c', s') ∧
      (result ≠ .ok (some .ok) → s'.documents = s.documents ∧ delivery = call.untouched) ∧
      (call.isQuery = true → s'.documents = s.documents) := by
  cases call
  case start => exact ⟨_, _, _, _, _, rfl, fun _ => ⟨rfl, rfl⟩, nofun⟩
  case stop => exact ⟨_, _, _, _, _, rfl, fun _ => ⟨rfl, rfl⟩, nofun⟩
  case read type id fields into =>
    have ⟨hs, hi⟩ := c.read_unchanged s type id fields into
    refine ⟨_, _, _, _, _, rfl, fun h => ⟨hs, ?_⟩, fun _ => hs⟩
    exact congrArg Delivery.record <| hi <| ne_ok_of_map_some h
  case scan type start count fields into =>
    have ⟨hs, hi⟩ := c.scan_unchanged s type start count fields into
    refine ⟨_, _, _, _, _, rfl, fun h => ⟨hs, ?_⟩, fun _ => hs⟩
    exact congrArg Delivery.records <| hi <| ne_ok_of_map_some h
  case insert type id values =>
    refine ⟨_, _, _, _, _, rfl, fun h => ⟨?_, rfl⟩, nofun⟩
    exact (c.documents_of_change s ⟨.create c.mode, type, id, values⟩ <| c.insert_spec s ..)
      |>.resolve_right <| ne_ok_of_map_some h
  case update type id values =>
    refine ⟨_, _, _, _, _, rfl, fun h => ⟨?_, rfl⟩, nofun⟩
    exact (c.documents_of_change s ⟨.patch, type, id, values⟩ <| c.post_spec s _)
      |>.resolve_right <| ne_ok_of_map_some h
  case delete type id =>
    refine ⟨_, _, _, _, _, rfl, fun h => ⟨?_, rfl⟩, nofun⟩
    exact (c.documents_of_change s ⟨.delete, type, id, []⟩ <| c.post_spec s _)
      |>.resolve_right <| ne_ok_of_map_some h

end Bench

end DocStore
