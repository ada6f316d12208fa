import DocStore.Proofs.Client.Plain
import DocStore.Proofs.Refinement

namespace DocStore.Bench

open KeyedStore

def Report.outcome? : Report → Option (Except Failure (Option Status) × Delivery)
  | .call result _ delivery => some (result, delivery)
  | _ => none

structure Answers (token : Option String) (call : Call) (report : Report) (s : Service)
    (reply : Reply) : Prop where
  outcome   : call.AsksSingle → report.outcome? = some (reply.result, reply.delivery)
  holds     : s.Holds token reply.store
  documents : reply.store.AreDocuments

section

variable {c : Client} {s : Service} {token : Option String} {store : KeyedStore}

theorem outcome?_reportOf {o : Outcome Status} {delivery : Delivery} {reply : Reply}
    (h : Meets o delivery reply) :
    (reportOf o delivery).1.outcome? = some (reply.result, reply.delivery) := by
  rw [← h.result, ← h.delivery]
  rfl

variable (hc : c.Ready token) (hs : s.Holds token store) (hd : store.AreDocuments)
include hc hs hd

theorem change_answers {call : Call} {m : Edit} {o : Outcome Status}
    (h : Client.Change c s m.mutation o) :
    Answers token call (reportOf o .nothing).1 o.service
      (store.write m.values (store.mutate m.kind m.type m.id ·)) :=
  have ⟨hm, hs, hd⟩ := Client.change_refines hc hs hd h
  ⟨fun _ => outcome?_reportOf hm, hs, hd⟩

theorem runCall_refines {call : Call} (hp : call.IsPlain) :
    (runCall c s call).2.1 = c ∧
      Answers token call (runCall c s call).1 (runCall c s call).2.2 (store.call c.mode call) := by
  cases call
  case start => exact hp.elim
  case stop => exact hp.elim
  case read table key fields into =>
    refine ⟨rfl, fun hn => ?_, Client.read_holds hc hs table key fields into, hd⟩
    exact outcome?_reportOf <| Client.read_refines hc hs hd table key hn into
  case scan table start count fields into =>
    have hr := store_call_scan store c.mode table start count fields into
    refine ⟨rfl, fun hn => ?_, ?_, hr.symm ▸ hd⟩
    · exact outcome?_reportOf <| Client.scan_refines hc hs hd table start hp hn into
    · rw [hr]
      exact Client.scan_holds hc hs table start count fields into
  case insert table key values =>
    have ha : Answers token (.insert table key values) _ _ _ :=
      change_answers (m := ⟨_, table, key, values⟩) hc hs hd <| c.insert_spec s ..
    rw [write_mutate_create hp.left hp.right] at ha
    exact ⟨rfl, ha⟩
  case update table key values =>
    exact ⟨rfl, change_answers (m := ⟨.patch, table, key, values⟩) hc hs hd <| c.post_spec s _⟩
  case delete table key =>
    exact ⟨rfl, change_answers (m := ⟨.delete, table, key, []⟩) hc hs hd <| c.post_spec s _⟩

end

-- A bench on which nothing but the documents changes while ready clients make calls.
structure Holds (b : Bench) (clients : Entries String Client) (token : Option String)
    (store : KeyedStore) : Prop where
  clients   : b.clients = clients
  service   : b.service.Holds token store
  documents : store.AreDocuments

def AreReady (clients : Entries String Client) (token : Option String)
    (calls : List (String × Call)) : Prop :=
  ∀ e ∈ calls, e.2.IsPlain ∧ ∃ c, clients.get? e.1 = some c ∧ c.Ready token

def modeOf (clients : Entries String Client) (name : String) : CreateMode :=
  (clients.get? name).elim .create Client.mode

def Report.Keeps (report : Report)
    (promise : Option (Except Failure (Option Status) × Delivery)) : Prop :=
  ∀ outcome ∈ promise, report.outcome? = some outcome

variable {b : Bench} {clients : Entries String Client} {token : Option String} {store : KeyedStore}

theorem step_refines (hb : b.Holds clients token store) (name : String) (call : Call)
    (hr : AreReady clients token [(name, call)]) :
    let reply := store.call (modeOf clients name) call
    (b.step (.call name call)).1.Keeps (promise (call, reply)) ∧
      (b.step (.call name call)).2.Holds clients token reply.store := by
  have ⟨hp, c, hg, hc⟩ := hr _ (List.mem_singleton.mpr rfl)
  have ⟨he, ha⟩ := runCall_refines hc hb.service hb.documents hp
  have hm : modeOf clients name = c.mode := by rw [modeOf, hg, Option.elim_some]
  rw [hm]
  simp only [step, hb.clients, hg, he]
  refine ⟨fun outcome ho => ?_, Entries.put_of_get? hg, ha.holds, ha.documents⟩
  rw [promise, Option.mem_ite_none_right] at ho
  exact (ha.outcome ho.left).trans ho.right

theorem run_holds (hb : b.Holds clients token store) {calls : List (String × Call)}
    (hr : AreReady clients token calls) :
    List.Forall₂ Report.Keeps (b.run (calls.map fun e => .call e.1 e.2)).1
        ((store.run (modeOf clients) calls).1.map promise) ∧
      (b.run (calls.map fun e => .call e.1 e.2)).2.Holds clients token
        (store.run (modeOf clients) calls).2 := by
  induction calls generalizing b store
  case nil => exact ⟨.nil, hb⟩
  case cons e calls hi =>
    have ⟨hr, hr'⟩ := List.forall_mem_cons.mp hr
    have ⟨ho, hb⟩ := step_refines hb e.1 e.2 <| by simpa [AreReady] using hr
    have ⟨ho', hb⟩ := hi hb hr'
    exact ⟨.cons ho ho', hb⟩

-- Ready clients in front of a service without documents are a plain store: each result, what has
-- been handed to its caller and the documents in the end are those of the store. What it looks for
-- by an id is under that key, as long as nothing gives a record another id.
theorem run_refines (b : Bench) (calls : List (String × Call)) (hd : b.service.documents = [])
    (hq : b.service.queue = []) (hr : AreReady b.clients b.service.token calls) :
    let run := b.run (calls.map fun e => .call e.1 e.2)
    let (replies, store) := KeyedStore.run (modeOf b.clients) [] calls
    List.Forall₂ Report.Keeps run.1 (replies.map promise) ∧
      run.2.service.documents = store.documents ∧
      ((∀ e ∈ calls, e.2.KeepsIds) → ∀ e ∈ replies, e.2.store.IsKeyed ∧
        ∀ table key, e.2.store.withId table key = (e.2.store.find? table key).toList) := by
  have hb : b.Holds b.clients b.service.token [] := ⟨rfl, ⟨rfl, hq, hd⟩, isKeyed_nil.documents⟩
  have ⟨ho, hb⟩ := run_holds hb hr
  refine ⟨ho, hb.service.documents, fun hi e he => ?_⟩
  have hk := isKeyed_run isKeyed_nil _ (fun e he => ⟨(hr e he).left, hi e he⟩) e he
  exact ⟨hk, fun table key => withId_eq_find? hk table key⟩

def pair : Bench where
  clients :=
    [("a", (Client.start { properties := [("sanity.dataset", .text "main")] }).1),
     ("b", (Client.start { properties :=
      [("sanity.dataset", .text "main"), ("sanity.mutation.insert", .text "createOrReplace")] }).1)]

theorem ready_pair : ∀ e ∈ pair.clients, e.2.Ready none := by
  simp only [pair, List.forall_mem_cons]
  have ha := @Client.isPlain_of_issues { properties := [("sanity.dataset", .text "main")] } none
    (by decide +kernel) (by decide +kernel) (by simp) (by decide +kernel) (by simp)
  have hb := @Client.isPlain_of_issues { properties :=
    [("sanity.dataset", .text "main"), ("sanity.mutation.insert", .text "createOrReplace")] } none
    (by decide +kernel) (by decide +kernel) (by simp) (by decide +kernel) (by simp)
  exact ⟨Client.ready_of_isPlain ha, Client.ready_of_isPlain hb, List.forall_mem_nil _⟩

theorem ready_a : ∃ c, pair.clients.get? "a" = some c ∧ c.Ready none :=
  ⟨_, rfl, ready_pair _ (.head _)⟩

theorem ready_b : ∃ c, pair.clients.get? "b" = some c ∧ c.Ready none :=
  ⟨_, rfl, ready_pair _ (.tail _ (.head _))⟩

def pairCalls : List (String × Call) :=
  [("a", .insert "t" "it's" [("f", .text "\\")]),
   ("b", .insert "t" "it's" [("f", .bytes [0x21])]),
   ("a", .insert "t" "it's" []),
   ("a", .read "t" "it's" (some ["f"]) []),
   ("a", .read "t" "it's" (some ["f", "\x7d"]) []),
   ("b", .update "u" "it's" [("_id", .text "i")]),
   ("a", .read "t" "it's" (some ["f"]) []),
   ("b", .read "t" "i" (some ["f"]) [])]

theorem areReady_pairCalls : AreReady pair.clients none pairCalls := by
  simp only [AreReady, pairCalls, List.forall_mem_cons]
  exact ⟨⟨by decide, ready_a⟩, ⟨by decide, ready_b⟩, ⟨by decide, ready_a⟩, ⟨trivial, ready_a⟩,
    ⟨trivial, ready_a⟩, ⟨trivial, ready_b⟩, ⟨trivial, ready_a⟩, ⟨trivial, ready_b⟩, by simp⟩

theorem run_refines_pair :
    AreReady pair.clients none pairCalls ∧
    List.Forall₂ Report.Keeps (pair.run (pairCalls.map fun e => .call e.1 e.2)).1
      [some (.ok (some .ok), .nothing), some (.ok (some .ok), .nothing),
       some (.ok (some .error), .nothing), some (.ok (some .ok), .record [("f", "!")]), none,
       some (.ok (some .ok), .nothing), some (.ok (some .notFound), .record []),
       some (.ok (some .ok), .record [("f", "!")])] :=
  ⟨areReady_pairCalls, (run_refines pair pairCalls rfl rfl areReady_pairCalls).left⟩

-- An update may give a record another id. It stays under its key, but is no longer read by it.
theorem run_moved_id :
    (∀ e ∈ pair.clients, e.2.Ready none) ∧
    (KeyedStore.merge "k" [("_id", "i")]
      (KeyedStore.insert .create "t" "k" [("f", "v")] []).2).2.find? "t" "k" =
      some ([("_id", "i"), ("_type", "t"), ("f", "v")] : Record) ∧
    (pair.run
      [.call "a" (.insert "t" "k" [("f", .text "v")]),
       .call "a" (.update "t" "k" [("_id", .text "i")]),
       .call "a" (.read "t" "k" (some ["f"]) [])]).1.map Report.outcome? =
      [some (.ok (some .ok), .nothing), some (.ok (some .ok), .nothing),
       some (.ok (some .notFound), .record [])] :=
  ⟨ready_pair, by decide, by decide +kernel⟩

end DocStore.Bench
