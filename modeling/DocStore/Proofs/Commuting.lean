import DocStore.Proofs.Client.Operations
import DocStore.Proofs.Service.Rewrite

namespace DocStore

open Mutation (envelope payloadOf)

namespace Service

variable {r : Request}

-- The service after some requests that have left these documents.
def leaving (s : Service) (requests : List Request) (documents : Documents) : Service :=
  { s with record := s.record ++ requests, documents }

@[simp] theorem leaving_nil (s : Service) : s.leaving [] s.documents = s := by
  simp [leaving]

theorem send_eq_leaving {s : Service} (h : s.queue = []) :
    s.send r = (s.leaving [r] (answer s.token s.stack r s.documents).1,
      (answer s.token s.stack r s.documents).2.bind (Answer.response s.stack)) :=
  send_of_queue_nil h

-- No answer to a query shows the order of filed documents.
theorem answer_of_get_perm (token : Option String) (stack : Stack) (hm : r.method = "GET")
    {documents documents' : Documents} (h : documents.Perm documents') (hd : documents.AreFiled) :
    (answer token stack r documents).2 = (answer token stack r documents').2 := by
  have hq : ∀ query, answerQuery stack query documents = answerQuery stack query documents' := by
    intro query
    unfold answerQuery
    split
    case h_1 => rfl
    case h_2 => rw [Selection.run_eq_of_perm stack h hd.named hd.nodup_ids]
  unfold answer
  split
  case isTrue =>
    split
    case h_1 => rfl
    case h_2 => simp [hq]
    case h_3 => simp [hm]
  case isFalse => rfl

end Service

namespace Bench

-- A call that changes nothing but what is under a key: a mutation of the document with that id that
-- does not give it another one.
def Call.Changes (key : String) : Call → Prop
  | .insert _ id values => id = key ∧ "_id" ∉ values.map Prod.fst
  | .update _ id values => id = key ∧ "_id" ∉ values.map Prod.fst
  | .delete _ id => id = key
  | _ => False

section

variable {call : Call} {key : String}

theorem Call.Changes.isOperation (h : call.Changes key) : call.isOperation = true := by
  cases call <;> first | rfl | cases h

theorem Call.Changes.isQuery (h : call.Changes key) : call.isQuery = false := by
  cases call <;> first | rfl | cases h

theorem Call.Changes.posted (h : call.Changes key) {σ : Settings} {headers : Headers}
    {d : Request.Draft} {r : Request} (hd : call.draft? σ headers = some d)
    (hp : Request.prepare d = .ok r) :
    ∃ kind, ∃ type : String, ∃ fields : Record, fields.IsUnpaired ∧
      "_id" ∉ fields.map Prod.fst ∧ ∀ stack, Service.bodyJson stack r "\x7b\x7d" =
        .ok (envelope kind (payloadOf kind type key fields.members)) := by
  have hs (m : Edit) {address parameters} (hn : "_id" ∉ m.values.map Prod.fst)
      (hd : m.mutation.body.toOption.map (fun body =>
        Client.draft "POST" address parameters (some body) headers) = some d) :
      ∃ kind, ∃ type : String, ∃ fields : Record, fields.IsUnpaired ∧
        "_id" ∉ fields.map Prod.fst ∧ ∀ stack, Service.bodyJson stack r "\x7b\x7d" =
          .ok (envelope kind (payloadOf kind type m.id fields.members)) := by
    have ⟨fields, ht, hb⟩ := Edit.bodyJson_of_post hd hp
    exact ⟨m.kind, m.type, _, Edit.isUnpaired_ofList_texts ht, Edit.not_mem_ofList_texts ht hn, hb⟩
  cases call
  case insert type key' values => exact h.left ▸ hs ⟨σ.insertKind, type, key', values⟩ h.right hd
  case update type key' values => exact h.left ▸ hs ⟨.patch, type, key', values⟩ h.right hd
  case delete type key' => exact h ▸ hs ⟨.delete, type, key', []⟩ List.not_mem_nil hd
  all_goals cases h

-- Any client changes what is under the key, or nothing, and is told no more than what was there.
theorem exists_rewrite_runCall (c : Client) (h : call.Changes key) (token : Option String)
    (stack : Stack) :
    ∃ (w : Rewrite key Report) (requests : List Request), ∀ s : Service, s.queue = [] →
      s.token = token → s.stack = stack → runCall c s call =
        ((w.run s.documents).2, c, s.leaving requests (w.run s.documents).1) := by
  rcases c.runCall_cases h.isOperation with
    ⟨_, _, _, hr⟩ | ⟨σ, headers, d, r, report, _, _, hd, hp, hr⟩
  case inl =>
    exact ⟨.keep key _, [], fun s _ _ _ => by rw [hr, Rewrite.run_keep, Service.leaving_nil]⟩
  case inr =>
    have hm : d.method = "POST" := by
      rw [method_of_draft? hd, h.isQuery]
      rfl
    have ⟨kind, type, fields, hu, hn, hb⟩ := h.posted hd hp
    obtain ⟨w, hw⟩ := Service.exists_rewrite_answer token stack (Request.method_of_post hm hp) hu
      (hb stack) hn
    refine ⟨w.map fun answer => report stack (answer.bind (Service.Answer.response stack)), [r], ?_⟩
    intro s hq ht hs
    rw [hr, Service.send_eq_leaving hq, ht, hs, hw, Rewrite.run_map]

-- A query of any client leaves the documents alone, and its report does not show their order.
theorem exists_look_runCall (c : Client) (h : call.isQuery = true) (token : Option String)
    (stack : Stack) :
    ∃ (look : Documents → Report) (requests : List Request),
      (∀ documents documents', documents.Perm documents' → documents.AreFiled →
        look documents = look documents') ∧
      ∀ s : Service, s.queue = [] → s.token = token → s.stack = stack →
        runCall c s call = (look s.documents, c, s.leaving requests s.documents) := by
  have ho : call.isOperation = true := by
    cases call <;> first | rfl | cases h
  rcases c.runCall_cases ho with ⟨_, _, _, hr⟩ | ⟨σ, headers, d, r, report, _, _, hd, hp, hr⟩
  case inl =>
    exact ⟨fun _ => _, [], fun _ _ _ _ => rfl, fun s _ _ _ => by rw [hr, Service.leaving_nil]⟩
  case inr =>
    have hm : d.method = "GET" := by rw [method_of_draft? hd, h, if_pos rfl]
    have hm := Request.method_of_get hm hp
    refine ⟨fun documents => report stack <| (Service.answer token stack r documents).2.bind <|
      Service.Answer.response stack, [r], fun _ _ hd hf => ?_, fun s hq ht hs => ?_⟩
    · dsimp only
      rw [Service.answer_of_get_perm token stack hm hd hf]
    · rw [hr, Service.send_eq_leaving hq, ht, hs, Service.answer_of_get _ _ hm]

end

def Step.isQuery : Step → Bool
  | .call _ c => c.isQuery
  | _ => false

-- Benches with the same clients, whose services differ in the order of their documents only, and
-- in what they have recorded.
structure Alike (b b' : Bench) : Prop where
  clients   : b'.clients = b.clients
  token     : b'.service.token = b.service.token
  stack     : b'.service.stack = b.service.stack
  queue     : b.service.queue = [] ∧ b'.service.queue = []
  documents : b.service.documents.Perm b'.service.documents
  filed     : b.service.documents.AreFiled

theorem alike_step {b b' : Bench} (h : Alike b b') {s : Step} (hs : s.isQuery = true) :
    (b.step s).1 = (b'.step s).1 ∧ Alike (b.step s).2 (b'.step s).2 := by
  cases s
  case call name call =>
    rw [step, step, h.clients]
    split
    case h_1 => exact ⟨rfl, h⟩
    case h_2 c _ =>
      have ⟨look, requests, hl, hr⟩ := exists_look_runCall c hs b.service.token b.service.stack
      rw [hr b.service h.queue.left rfl rfl, hr b'.service h.queue.right h.token h.stack]
      exact ⟨hl _ _ h.documents h.filed, ⟨rfl, h.token, h.stack, h.queue, h.documents, h.filed⟩⟩
  all_goals cases hs

theorem alike_run {b b' : Bench} (h : Alike b b') {steps : List Step}
    (hs : ∀ s ∈ steps, s.isQuery = true) : (b.run steps).1 = (b'.run steps).1 := by
  induction steps generalizing b b'
  case nil => rfl
  case cons s steps hi =>
    simp only [List.mem_cons, forall_eq_or_imp] at hs
    obtain ⟨hr, hb⟩ := alike_step h hs.left
    simp only [run, hr, hi hb hs.right]

-- What a step does on a bench with no queued answers is a change under a key, and it reports what
-- the change answers.
def Performs (clients : Entries String Client) (token : Option String) (stack : Stack)
    {id : JsonText} (x : Step) (w : Rewrite id Report) (requests : List Request) : Prop :=
  ∀ s : Service, s.queue = [] → s.token = token → s.stack = stack → step ⟨s, clients⟩ x =
    ((w.run s.documents).2, ⟨s.leaving requests (w.run s.documents).1, clients⟩)

section

variable (clients : Entries String Client) (token : Option String) (stack : Stack)

theorem exists_performs {call : Call} {key : String} (h : call.Changes key) (name : String) :
    ∃ (w : Rewrite key Report) (requests : List Request),
      Performs clients token stack (.call name call) w requests := by
  cases hc : clients.get? name
  case none =>
    refine ⟨.keep key .quiet, [], fun s _ _ _ => ?_⟩
    simp [step, hc]
  case some c =>
    have ⟨w, requests, hr⟩ := exists_rewrite_runCall c h token stack
    refine ⟨w, requests, fun s hq ht hs => ?_⟩
    simp [step, hc, hr s hq ht hs, Entries.put_of_get? hc]

variable {clients token stack}

theorem run_pair {id id' : JsonText} {x y : Step} {w : Rewrite id Report} {w' : Rewrite id' Report}
    {requests requests' : List Request} (hx : Performs clients token stack x w requests)
    (hy : Performs clients token stack y w' requests') (hk : id ≠ id') {s : Service}
    (hq : s.queue = []) (ht : s.token = token) (hs : s.stack = stack) :
    run ⟨s, clients⟩ [x, y] = ([(w.run s.documents).2, (w'.run s.documents).2],
      ⟨(s.leaving requests (w.run s.documents).1).leaving requests'
        (w'.run (w.run s.documents).1).1, clients⟩) := by
  have hx := hx s hq ht hs
  have hy := hy (s.leaving requests (w.run s.documents).1) hq ht hs
  have ha : (w'.run (w.run s.documents).1).2 = (w'.run s.documents).2 := w.answer_run_run hk w' _
  simp only [run, hx, hy]
  rw [← ha]
  rfl

end

-- Two mutations of different keys, by whatever clients, come to the same in either order: each is
-- told the same, the same documents are under the same keys, and no query after them shows which
-- was first.
theorem changes_commute {b : Bench} (hq : b.service.queue = []) (hd : b.service.documents.AreFiled)
    {key key' : String} (hk : key ≠ key') {call call' : Call} (h : call.Changes key)
    (h' : call'.Changes key') (name name' : String) :
    let first  := b.run [.call name call, .call name' call']
    let second := b.run [.call name' call', .call name call]
    first.1 = second.1.reverse ∧
    first.2.service.documents.Perm second.2.service.documents ∧
    (∀ key, first.2.service.documents.get? key = second.2.service.documents.get? key) ∧
    ∀ queries : List Step, (∀ s ∈ queries, s.isQuery = true) →
      (first.2.run queries).1 = (second.2.run queries).1 := by
  intro first second
  have ⟨w, requests, hw⟩ := exists_performs b.clients b.service.token b.service.stack h name
  have ⟨w', requests', hw'⟩ := exists_performs b.clients b.service.token b.service.stack h' name'
  have hk : JsonText.plain key ≠ .plain key' := fun he => hk <| JsonText.plain.inj he
  have hf : first = _ := run_pair hw hw' hk hq rfl rfl
  have hs : second = _ := run_pair hw' hw hk.symm hq rfl rfl
  have hp := w.run_run_perm hk w' b.service.documents
  rw [hf, hs]
  refine ⟨rfl, hp, w.get?_run_run hk w' b.service.documents, fun queries hqs => alike_run ?_ hqs⟩
  exact ⟨rfl, rfl, rfl, ⟨hq, hq⟩, hp, w'.areFiled_run <| w.areFiled_run hd⟩

def shelf : Bench where
  service :=
    { documents := [(.text "m", [(.text "_id", .text "m"), (.text "_type", .text "t"),
        (.text "n", .int 1)])] }
  clients :=
    [("a", (Client.start { properties := [("sanity.dataset", .text "main")] }).1),
      ("b", (Client.start { properties := [("sanity.dataset", .text "main"),
        ("sanity.mutation.insert", .text "createOrReplace")] }).1)]

def insertLast : Call := .insert "t" "z" [("n", .text "2")]

def insertFirst : Call := .insert "t" "a" [("n", .other (.int 3))]

def scanAll : Step := .call "a" (.scan "t" "" 9 (some ["_id", "n"]) [])

theorem changes_commute_shelf :
    shelf.service.queue = [] ∧ shelf.service.documents.AreFiled ∧ "z" ≠ "a" ∧
    insertLast.Changes "z" ∧ insertFirst.Changes "a" ∧
    (∀ s ∈ [scanAll], s.isQuery = true) ∧
    let first  := shelf.run [.call "a" insertLast, .call "b" insertFirst]
    let second := shelf.run [.call "b" insertFirst, .call "a" insertLast]
    first.1 = second.1.reverse ∧
    first.2.service.documents.Perm second.2.service.documents ∧
    (first.2.run [scanAll]).1 = (second.2.run [scanAll]).1 ∧
    first.2.service.documents.map Prod.fst = [.text "m", .text "z", .text "a"] ∧
    second.2.service.documents.map Prod.fst = [.text "m", .text "a", .text "z"] := by
  have hd : shelf.service.documents.AreFiled := by
    refine ⟨by decide, fun e he => ?_⟩
    rw [List.mem_singleton.mp he]
    exact ⟨"m", "t", rfl, rfl, rfl⟩
  have hk : "z" ≠ "a" := by decide
  have hl : insertLast.Changes "z" := ⟨rfl, by decide⟩
  have hf : insertFirst.Changes "a" := ⟨rfl, by decide⟩
  have hs : ∀ s ∈ [scanAll], s.isQuery = true := by decide
  have ⟨hr, hp, _, hq⟩ := changes_commute rfl hd hk hl hf "a" "b"
  exact ⟨rfl, hd, hk, hl, hf, hs, hr, hp, hq [scanAll] hs, by decide +kernel, by decide +kernel⟩

end Bench

end DocStore
