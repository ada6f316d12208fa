import DocStore.Proofs.Client.Operations
import DocStore.Proofs.Client.Rows
import DocStore.Proofs.Json.Printed

namespace DocStore

open KeyedStore Mutation

-- A queued response has a text that can be sent and a code that can be logged, and a queued failure
-- is one of transport.
def QueuedAnswer.IsOrdinary : QueuedAnswer → Prop
  | .response r => (∃ text : String, r.text = .plain text) ∧ Text.isOverlong r.code = false
  | .failure f => f.kind.isTransport = true

def QueuedAnswer.IsShallow (stack : Stack) : QueuedAnswer → Prop
  | .response r => ∀ text : String, r.text = .plain text →
    ∀ container, Json.read stack text ≠ .error (.tooDeep container)
  | .failure _ => True

theorem QueuedAnswer.exists_enough (queued : QueuedAnswer) :
    ∃ enough, ∀ stack : Stack, enough ≤ stack.frames → queued.IsShallow stack := by
  cases queued
  case failure => exact ⟨0, fun _ _ => trivial⟩
  case response r =>
    cases ht : r.text
    case broken => exact ⟨0, fun _ _ text h => by simp [ht] at h⟩
    case plain text =>
      obtain ⟨enough, hr⟩ := Json.exists_enough_read text
      refine ⟨enough, fun stack hs text' h => ?_⟩
      cases ht.symm.trans h
      exact hr stack hs

namespace Service

-- A service that only clients have sent requests to.
structure IsOrdinary (stack : Stack) (s : Service) : Prop where
  fits      : s.stack = stack
  documents : ∃ store : KeyedStore, s.documents = store.documents ∧ store.AreDocuments
  queue     : ∀ queued ∈ s.queue, queued.IsOrdinary ∧ queued.IsShallow stack

def Fault.IsTransport (fault : Fault) : Prop :=
  ∃ failure, fault = .queued failure ∧ failure.kind.isTransport = true

def IsReadable (stack : Stack) (response : Response) : Prop :=
  Text.isOverlong response.code = false ∧ (300 ≤ response.code ∨
    ∀ failure, Response.content stack response.text = .error failure →
      failure.kind?.isSome = true)

-- A query that the service rejects or that has a good count.
def IsAnswerable (text : String) : Prop :=
  ∀ q, Selection.parse? text.toList = some q → ∃ limit, q.limit? = .ok limit

theorem isReadable_of_not_tooDeep {stack : Stack} {response : Response}
    (hc : Text.isOverlong response.code = false)
    (h : ∀ container, Json.read stack response.text ≠ .error (.tooDeep container)) :
    IsReadable stack response := by
  refine ⟨hc, .inr fun failure hf => ?_⟩
  unfold Response.content at hf
  repeat' split at hf
  all_goals cases hf
  case _ e he =>
    cases e
    case tooDeep => exact absurd he (h _)
    all_goals rfl

variable {stack : Stack} {s : Service} {r : Request}

-- One request takes one queued answer, which comes before any other.
theorem send_queued (hs : s.IsOrdinary stack) (hq : s.queue ≠ []) :
    (s.send r).1.IsOrdinary stack ∧
      (∀ fault, (s.send r).2 = .error fault → fault.IsTransport) ∧
      ∀ response, (s.send r).2 = .ok response → IsReadable stack response := by
  cases hc : s.queue
  case nil => exact absurd hc hq
  case cons queued rest =>
    obtain ⟨ho, hd⟩ := hs.queue queued (hc ▸ List.mem_cons_self)
    rw [send_of_queue_cons hc]
    refine ⟨⟨hs.fits, hs.documents, fun q hr => hs.queue q (hc ▸ .tail _ hr)⟩, ?_⟩
    cases queued
    case response r =>
      obtain ⟨⟨text, ht⟩, hl⟩ := ho
      have hr : r.sent = .ok ⟨r.code, text⟩ := by simp [Canned.sent, ht, JsonText.string?]
      rw [QueuedAnswer.result, hr]
      refine ⟨fun _ h => (by cases h), fun _ h => ?_⟩
      cases h
      exact isReadable_of_not_tooDeep hl <| hd text ht
    case failure =>
      refine ⟨fun _ h => ?_, fun _ h => by cases h⟩
      cases h
      exact ⟨_, rfl, ho⟩

theorem isReadable_of_isBrief {a : Answer} (h : a.IsBrief) (hc : 300 ≤ a.code) :
    ∃ response, a.response stack = .ok response ∧ IsReadable stack response :=
  ⟨_, h.response stack, h.code, .inl hc⟩

theorem answer_query (hs : s.IsOrdinary stack) (hm : r.method = "GET")
    (ha : IsAnswerable ((parameter? r "query").getD "")) :
    ∃ response, (answer s.token stack r s.documents).2.bind (Answer.response stack) =
      .ok response ∧ IsReadable stack response := by
  obtain ⟨store, hd, hi⟩ := hs.documents
  unfold answer
  split
  case isTrue =>
    split
    case h_1 => exact isReadable_of_isBrief ⟨by decide, by decide, rfl⟩ (by decide)
    case h_2 =>
      rw [hd]
      cases hp : Selection.parse? ((parameter? r "query").getD "").toList
      case none =>
        rw [answerQuery, hp]
        exact isReadable_of_isBrief (isBrief_unsupportedQuery _) (by simp [unsupportedQuery])
      case some q =>
        obtain ⟨limit, hl⟩ := ha q hp
        obtain ⟨response, hr, hc, hf⟩ := Response.finds_recordsAnswer stack
          ((parameter? r "query").getD "") <| q.isCarried_rows limit hi.map_snd
        refine ⟨response, by rw [answerQuery_documents stack hi hp hl]; exact hr, ?_, .inr ?_⟩
        · exact hc ▸ Text.isOverlong_of_lt (by decide)
        · intro failure he
          cases hf.symm.trans he
    case h_3 =>
      rw [if_neg (hm ▸ by decide)]
      have hw : methodNotAllowed.IsBrief := ⟨by decide, by decide, rfl⟩
      exact isReadable_of_isBrief hw (by decide)
  case isFalse => exact isReadable_of_isBrief ⟨by decide, by decide, rfl⟩ (by decide)

theorem send_query (hs : s.IsOrdinary stack) (hm : r.method = "GET")
    (ha : IsAnswerable ((parameter? r "query").getD "")) :
    (s.send r).1.IsOrdinary stack ∧
      (∀ fault, (s.send r).2 = .error fault → fault.IsTransport) ∧
      ∀ response, (s.send r).2 = .ok response → IsReadable stack response := by
  by_cases hq : s.queue = []
  case neg => exact send_queued hs hq
  case pos =>
    have ⟨response, he, hr⟩ := answer_query hs hm ha
    rw [send_of_queue_nil hq, answer_of_get _ _ hm, hs.fits, he]
    refine ⟨⟨rfl, hs.documents, hs.queue⟩, nofun, fun _ h => ?_⟩
    cases h
    exact hr

theorem send_mutation {kind : MutationKind} {type id : String} {fields : Record}
    (hs : s.IsOrdinary stack) (hu : fields.IsUnpaired) (hm : r.method = "POST")
    (hb : bodyJson s.stack r "\x7b\x7d" =
      .ok (envelope kind (payloadOf kind type id fields.members))) :
    (s.send r).1.IsOrdinary stack ∧
      (∀ fault, (s.send r).2 = .error fault → fault.IsTransport) ∧
      ∀ response, (s.send r).2 = .ok response → Text.isOverlong response.code = false := by
  by_cases hq : s.queue = []
  case neg =>
    have ⟨ho, hf, hr⟩ := send_queued (r := r) hs hq
    exact ⟨ho, hf, fun response h => (hr response h).left⟩
  case pos =>
    have ⟨store, hd, hi⟩ := hs.documents
    rw [send_of_queue_nil hq]
    rcases answer_of_post s.token s.stack hm with ha | ⟨refusal, ha, _, hw⟩
    case inl =>
      have ⟨a, he, hw, _⟩ := answerMutate_documents kind type id fields hb store
      rw [ha, hd, he]
      simp only [Except.bind, hw.response]
      refine ⟨⟨hs.fits, ⟨_, rfl, areDocuments_mutate hi kind type id hu⟩, hs.queue⟩, nofun, ?_⟩
      intro _ h
      cases h
      exact hw.code
    case inr =>
      rw [ha]
      simp only [Except.bind, hw.response]
      refine ⟨⟨hs.fits, hs.documents, hs.queue⟩, nofun, fun _ h => ?_⟩
      cases h
      exact hw.code

end Service

namespace Service

theorem isAnswerable_lookup (type id : String) (names : List String) :
    IsAnswerable (Query.lookup type id names).text := by
  intro q hq
  simp only [Selection.parse?_lookup, Option.ite_none_left_eq_some, Option.some.injEq] at hq
  exact ⟨none, hq.right ▸ rfl⟩

theorem isAnswerable_range {type start : String} {n : Nat} {names : List String} {q : Query}
    (h : Query.range type start n names = .ok q) (hn : n < Nat.pow 10 Text.digitLimit) :
    IsAnswerable q.text := by
  intro q' hq
  simp only [Selection.parse?_range h, Option.ite_none_left_eq_some, Option.some.injEq] at hq
  exact ⟨some n, Selection.limit?_toDigits hn (hq.right ▸ rfl)⟩

end Service

-- Where a client sends its requests: its queries carry nothing but their own parameter, and where
-- no request can be made of them, they are rejected as requests that could not be sent.
structure Settings.IsOrdinary (σ : Settings) : Prop where
  query    : '?' ∉ σ.queryAddress.toList
  rejected : ∀ (d : Request.Draft) (fault : Request.Fault),
    d.address = σ.queryAddress ∨ d.address = σ.mutateAddress →
    Request.prepare d = .error fault → fault.isTransport = true

structure Client.IsOrdinary (c : Client) : Prop where
  properties : ∀ σ, Settings.ofProperties c.properties = .ok σ → σ.IsOrdinary
  settings   : ∀ σ, c.settings = some σ → σ.IsOrdinary

def RaisesDatabaseErrors {α : Type} (result : Except Failure α) : Prop :=
  ∀ failure, result = .error failure → failure.kind?.isSome = true

theorem raisesDatabaseErrors_error {α : Type} {failure : Failure}
    (h : failure.kind?.isSome = true) :
    RaisesDatabaseErrors (.error failure : Except Failure α) := by
  intro _ he
  cases he
  exact h

namespace Client

theorem kind?_ofRejection {fault : Request.Fault} (h : fault.isTransport = true)
    (method address : String) : (Failure.ofRejection method address fault).kind?.isSome = true := by
  rw [Failure.ofRejection, if_pos h]
  rfl

theorem kind?_ofFault {fault : Service.Fault} (h : fault.IsTransport) (method address : String) :
    (Failure.ofFault method address fault).kind?.isSome = true := by
  have ⟨failure, he, ht⟩ := h
  rw [he, Failure.ofFault, if_pos ht]
  rfl

variable {stack : Stack} {c : Client} {s : Service}

theorem isAnswerable_of_draft {address : String} {headers : Headers} {r : Request} {q : Query}
    (hq : '?' ∉ address.toList) (ha : Service.IsAnswerable q.text)
    (hp : Request.prepare (draft "GET" address [("query", q.text)] none headers) = .ok r) :
    Service.IsAnswerable ((Service.parameter? r "query").getD "") := by
  rcases Request.parameter?_of_draft hq q.text_ne_empty hp with h | ⟨_, h⟩
  case inl => rwa [h]
  case inr =>
    intro q' hq'
    rw [h, Option.getD_some, q.parse?_spelled] at hq'
    cases hq'

theorem interpret_ordinary {response : Response} (h : Service.IsReadable stack response)
    (query : String) (r : Request) :
    RaisesDatabaseErrors (interpret stack query r response).1 := by
  intro failure hf
  unfold interpret at hf
  split at hf
  case isTrue => cases hf
  case isFalse hn =>
    split at hf
    case h_1 hr =>
      cases hf
      exact (h.right.resolve_left hn) _ hr
    all_goals cases hf

theorem ask_ordinary (hc : c.IsOrdinary) (hs : s.IsOrdinary stack) {q : Query}
    (ha : Service.IsAnswerable q.text) :
    (c.ask s q.text).service.IsOrdinary stack ∧ RaisesDatabaseErrors (c.ask s q.text).result := by
  unfold ask
  split
  case h_1 => exact ⟨hs, raisesDatabaseErrors_error rfl⟩
  case h_2 σ hσ =>
    have ho := hc.settings σ hσ
    have he := exchange_spec c s "GET" σ.queryAddress [("query", q.text)] none
    revert he
    generalize c.exchange s "GET" σ.queryAddress [("query", q.text)] none = o
    intro he
    cases he
    case notReady => exact ⟨hs, raisesDatabaseErrors_error rfl⟩
    case rejected hp =>
      have ht := ho.rejected _ _ (.inl rfl) hp
      exact ⟨hs, raisesDatabaseErrors_error <| kind?_ofRejection ht _ _⟩
    case failed hp hr =>
      have ⟨ho, hf, _⟩ := Service.send_query hs (Request.method_of_get rfl hp)
        (isAnswerable_of_draft ho.query ha hp)
      exact ⟨ho, raisesDatabaseErrors_error <| kind?_ofFault (hf _ hr) _ _⟩
    case unlogged hp hr hl =>
      have ⟨_, _, hi⟩ := Service.send_query hs (Request.method_of_get rfl hp)
        (isAnswerable_of_draft ho.query ha hp)
      cases hl.symm.trans (hi _ hr).left
    case received hp hr _ =>
      have ⟨ho, _, hi⟩ := Service.send_query hs (Request.method_of_get rfl hp)
        (isAnswerable_of_draft ho.query ha hp)
      exact ⟨ho, hs.fits ▸ interpret_ordinary (hi _ hr) _ _⟩

theorem submit_ordinary {σ : Settings} (hσ : σ.IsOrdinary) (hs : s.IsOrdinary stack)
    {kind : MutationKind} {type id body : String} {fields : Record} (hu : fields.IsUnpaired)
    (h : Json.read s.stack body = .ok (envelope kind (payloadOf kind type id fields.members)))
    (parameters : List (String × String)) :
    (c.submit s σ.mutateAddress body parameters).service.IsOrdinary stack ∧
      RaisesDatabaseErrors (c.submit s σ.mutateAddress body parameters).result := by
  unfold submit
  have he := exchange_spec c s "POST" σ.mutateAddress parameters (some body)
  revert he
  generalize c.exchange s "POST" σ.mutateAddress parameters (some body) = o
  intro he
  cases he
  case notReady => exact ⟨hs, raisesDatabaseErrors_error rfl⟩
  case rejected hp =>
    have ht := hσ.rejected _ _ (.inr rfl) hp
    exact ⟨hs, raisesDatabaseErrors_error <| kind?_ofRejection ht _ _⟩
  case failed hp hr =>
    have ⟨ho, hf, _⟩ := Service.send_mutation hs hu (Request.method_of_post rfl hp)
      (bodyJson_of_draft h hp _)
    exact ⟨ho, raisesDatabaseErrors_error <| kind?_ofFault (hf _ hr) _ _⟩
  case unlogged hp hr hl =>
    have ⟨_, _, hi⟩ := Service.send_mutation hs hu (Request.method_of_post rfl hp)
      (bodyJson_of_draft h hp _)
    cases hl.symm.trans (hi _ hr)
  case received hp hr _ =>
    have ⟨ho, _⟩ := Service.send_mutation hs hu (Request.method_of_post rfl hp)
      (bodyJson_of_draft h hp _)
    exact ⟨ho, nofun⟩

theorem change_ordinary (hc : c.IsOrdinary) (hs : s.IsOrdinary stack) (m : Edit)
    {o : Outcome Status} (h : Change c s m.mutation o) :
    o.service.IsOrdinary stack ∧ RaisesDatabaseErrors o.result := by
  cases h
  case notReady => exact ⟨hs, raisesDatabaseErrors_error rfl⟩
  case badBytes => exact ⟨hs, raisesDatabaseErrors_error rfl⟩
  case submitted hσ hp =>
    have ⟨_, ht, hr⟩ := m.read_payload hp
    exact submit_ordinary (hc.settings _ hσ) hs (Edit.isUnpaired_ofList_texts ht) (hr s.stack) _

theorem collect_ordinary {α : Type} {o : Outcome Answer} (into : α)
    (deliver : Answer → Status × α)
    (h : o.service.IsOrdinary stack ∧ RaisesDatabaseErrors o.result) :
    (collect o into deliver).1.service.IsOrdinary stack ∧
      RaisesDatabaseErrors (collect o into deliver).1.result := by
  unfold collect
  split
  case h_1 failure hf => exact ⟨h.left, raisesDatabaseErrors_error <| h.right _ hf⟩
  case h_2 => exact ⟨h.left, nofun⟩

theorem read_ordinary (hc : c.IsOrdinary) (hs : s.IsOrdinary stack) (type id : String)
    (fields : Option (List String)) (into : Record) :
    (c.read s type id fields into).1.service.IsOrdinary stack ∧
      RaisesDatabaseErrors (c.read s type id fields into).1.result :=
  collect_ordinary _ _ <| ask_ordinary hc hs <| Service.isAnswerable_lookup type id _

-- A count is good if there are fewer digits than can be written, whatever its sign is.
theorem scan_ordinary (hc : c.IsOrdinary) (hs : s.IsOrdinary stack) (type start : String)
    {count : Int} (hn : Text.isOverlong count = false) (fields : Option (List String))
    (into : List Record) :
    (c.scan s type start count fields into).1.service.IsOrdinary stack ∧
      RaisesDatabaseErrors (c.scan s type start count fields into).1.result := by
  rw [Client.scan_eq]
  rcases Selection.rangeText_cases type start count (fields.getD []) with
    ⟨ho, _⟩ | ⟨_, _, he⟩ | ⟨n, q, rfl, hn, hr, ht⟩
  case inl => cases hn.symm.trans ho
  case inr.inl =>
    rw [he]
    exact ⟨hs, raisesDatabaseErrors_error rfl⟩
  case inr.inr =>
    rw [ht]
    exact collect_ordinary _ _ <| ask_ordinary hc hs <| Service.isAnswerable_range hr hn

theorem start_ordinary (hc : c.IsOrdinary) :
    c.start.1.IsOrdinary ∧ RaisesDatabaseErrors c.start.2.1 := by
  unfold start
  split
  case h_1 => exact ⟨hc, raisesDatabaseErrors_error rfl⟩
  case h_2 σ hσ =>
    exact ⟨⟨hc.properties, fun _ h => by cases h; exact hc.properties σ hσ⟩, nofun⟩

end Client

namespace Settings

def ArePlain (properties : Entries String Json) : Prop :=
  ∀ property ∈ properties, ∃ s : String, property.2 = .text s ∧ '?' ∉ s.toList

theorem not_mem_textOf {properties : Entries String Json} (h : ArePlain properties) (p : Property)
    (default : String) (hd : '?' ∉ default.toList) :
    '?' ∉ (textOf properties p default).toList := by
  unfold textOf
  cases hv : Entries.get? properties p.key
  case none => exact hd
  case some v =>
    have ⟨s, he, hs⟩ := h _ <| Entries.mem_of_get?_eq_some hv
    have he : v = .text s := he
    simpa [he, JsonText.shown] using hs

theorem not_mem_queryAddress {properties : Entries String Json} (h : ArePlain properties) :
    '?' ∉ (assemble properties).queryAddress.toList := by
  have hp := not_mem_textOf h .project "" (by decide)
  have hd := not_mem_textOf h .dataset "" (by decide)
  have hs := not_mem_textOf h .protocol "https://" (by decide)
  have hh := not_mem_textOf h .host "api.sanity.io" (by decide)
  have hv := not_mem_textOf h .version "vX" (by decide)
  simp only [queryAddress, origin, assemble, String.toList_append, List.mem_append, not_or]
  refine ⟨⟨⟨⟨⟨⟨hs, ?_⟩, hh⟩, by decide⟩, hv⟩, by decide⟩, hd⟩
  by_cases he : textOf properties .project "" = ""
  case pos => simp [he]
  case neg => simpa [he] using hp

end Settings

namespace Bench

def Report.failure? : Report → Option Failure
  | .call (.error failure) _ _ => some failure
  | _ => none

def IsRejected (client : Client) : Prop :=
  ∀ σ, Settings.ofProperties client.properties = .ok σ →
    ∀ (d : Request.Draft) (fault : Request.Fault),
      d.address = σ.queryAddress ∨ d.address = σ.mutateAddress →
      Request.prepare d = .error fault → fault.isTransport = true

-- The steps of those who use clients alone: clients enter with properties and perhaps a session,
-- and the service is left to itself but for queued answers.
def Step.IsOrdinary : Step → Prop
  | .enter _ client => client.settings = none ∧ Settings.ArePlain client.properties
  | .call _ (.scan _ _ count _ _) => Text.isOverlong count = false
  | .call _ _ => True
  | .enqueue queued => queued.IsOrdinary
  | _ => False

structure IsOrdinary (stack : Stack) (b : Bench) : Prop where
  service : b.service.IsOrdinary stack
  clients : ∀ name c, b.clients.get? name = some c → c.IsOrdinary

theorem client_ordinary {c : Client} (hn : c.settings = none) (hp : Settings.ArePlain c.properties)
    (hr : IsRejected c) : c.IsOrdinary where
  properties := by
    intro σ hσ
    refine ⟨?_, hr σ hσ⟩
    unfold Settings.ofProperties at hσ
    split at hσ
    case h_1 =>
      cases hσ
      exact Settings.not_mem_queryAddress hp
    case h_2 => cases hσ
  settings := by
    intro σ hσ
    rw [hn] at hσ
    cases hσ

variable {stack : Stack}

theorem isOrdinary_put {b : Bench} (hb : b.IsOrdinary stack) {s : Service}
    (hs : s.IsOrdinary stack) {c : Client} (hc : c.IsOrdinary) (name : String) :
    IsOrdinary stack ⟨s, b.clients.put name c⟩ where
  service := hs
  clients := by
    intro name' c' h
    by_cases hn : name' = name
    case pos =>
      rw [hn, Entries.get?_put_self] at h
      cases h
      exact hc
    case neg => exact hb.clients name' c' <| Entries.get?_put_of_ne _ _ hn ▸ h

theorem failure?_call {α : Type} {result : Except Failure α} (h : RaisesDatabaseErrors result)
    (f : α → Option Status) (log : List LogLine) (delivery : Delivery) {failure : Failure}
    (hf : (Report.call (result.map f) log delivery).failure? = some failure) :
    failure.kind?.isSome = true := by
  cases result
  case error =>
    cases hf
    exact h _ rfl
  case ok => cases hf

theorem reportOf_ordinary {o : Outcome Status} (delivery : Delivery)
    (h : o.service.IsOrdinary stack ∧ RaisesDatabaseErrors o.result) :
    (reportOf o delivery).2.IsOrdinary stack ∧
      ∀ failure, (reportOf o delivery).1.failure? = some failure → failure.kind?.isSome = true :=
  ⟨h.left, fun _ => failure?_call h.right some o.log delivery⟩

theorem runCall_ordinary {c : Client} {s : Service} {name : String} {call : Call}
    (hc : c.IsOrdinary) (hs : s.IsOrdinary stack) (hn : (Step.call name call).IsOrdinary) :
    (runCall c s call).2.1.IsOrdinary ∧ (runCall c s call).2.2.IsOrdinary stack ∧
      ∀ failure, (runCall c s call).1.failure? = some failure → failure.kind?.isSome = true := by
  cases call
  case start =>
    have ⟨ho, hr⟩ := Client.start_ordinary hc
    exact ⟨ho, hs, fun _ => failure?_call hr _ _ _⟩
  case stop => exact ⟨⟨hc.properties, hc.settings⟩, hs, nofun⟩
  case read type id fields into =>
    exact ⟨hc, reportOf_ordinary _ <| Client.read_ordinary hc hs type id fields into⟩
  case scan type start count fields into =>
    exact ⟨hc, reportOf_ordinary _ <| Client.scan_ordinary hc hs type start hn fields into⟩
  case insert type id values =>
    exact ⟨hc, reportOf_ordinary _ <| Client.change_ordinary hc hs ⟨_, type, id, values⟩ <|
      c.insert_spec s ..⟩
  case update type id values =>
    exact ⟨hc, reportOf_ordinary _ <| Client.change_ordinary hc hs ⟨_, type, id, values⟩ <|
      c.post_spec s _⟩
  case delete type id =>
    exact ⟨hc, reportOf_ordinary _ <| Client.change_ordinary hc hs ⟨_, type, id, []⟩ <|
      c.post_spec s _⟩

theorem step_ordinary {b : Bench} {step : Step} (hb : b.IsOrdinary stack) (hs : step.IsOrdinary)
    (hd : ∀ queued, step = .enqueue queued → queued.IsShallow stack)
    (hr : ∀ name client, step = .enter name client → IsRejected client) :
    (b.step step).2.IsOrdinary stack ∧
      ∀ failure, (b.step step).1.failure? = some failure → failure.kind?.isSome = true := by
  cases step
  case enter name client =>
    exact ⟨isOrdinary_put hb hb.service (client_ordinary hs.left hs.right (hr _ _ rfl)) name, nofun⟩
  case call name call =>
    rw [Bench.step]
    split
    case h_1 => exact ⟨hb, nofun⟩
    case h_2 c hc =>
      have ⟨hc, ho, hf⟩ := runCall_ordinary (hb.clients name c hc) hb.service hs
      exact ⟨isOrdinary_put hb ho hc name, hf⟩
  case enqueue queued =>
    have hq := hb.service.queue
    refine ⟨⟨⟨hb.service.fits, hb.service.documents, fun q hm => ?_⟩, hb.clients⟩, nofun⟩
    rcases List.mem_append.mp hm with hm | hm
    case inl => exact hq q hm
    case inr => exact List.mem_singleton.mp hm ▸ ⟨hs, hd queued rfl⟩
  case request => exact hs.elim
  case clear => exact hs.elim

theorem run_ordinary {b : Bench} {steps : List Step} (hb : b.IsOrdinary stack)
    (hs : ∀ step ∈ steps, step.IsOrdinary)
    (hd : ∀ queued, .enqueue queued ∈ steps → queued.IsShallow stack)
    (hr : ∀ name client, .enter name client ∈ steps → IsRejected client) :
    (b.run steps).2.IsOrdinary stack ∧
      ∀ report ∈ (b.run steps).1, ∀ failure, report.failure? = some failure →
        failure.kind?.isSome = true := by
  induction steps generalizing b
  case nil => exact ⟨hb, by simp [run]⟩
  case cons step steps hi =>
    simp only [List.mem_cons, forall_eq_or_imp] at hs
    obtain ⟨ho, hf⟩ := step_ordinary hb hs.left (fun queued h => hd queued (h ▸ .head _))
      fun name client h => hr name client (h ▸ .head _)
    obtain ⟨ho', hf'⟩ := hi ho hs.right (fun queued h => hd queued (.tail _ h))
      fun name client h => hr name client (.tail _ h)
    refine ⟨ho', ?_⟩
    rintro report hm
    rcases List.mem_cons.mp hm with rfl | hm
    case inl => exact hf
    case inr => exact hf' report hm

-- There is a stack on which none of the queued responses is too deep.
theorem exists_enough_enqueue (steps : List Step) :
    ∃ enough, ∀ stack : Stack, enough ≤ stack.frames →
      ∀ queued, .enqueue queued ∈ steps → queued.IsShallow stack := by
  induction steps
  case nil => exact ⟨0, fun _ _ _ h => by cases h⟩
  case cons step steps hi =>
    obtain ⟨enough, hi⟩ := hi
    by_cases hq : ∃ queued, step = .enqueue queued
    case neg =>
      refine ⟨enough, fun stack hs queued hm => hi stack hs queued ?_⟩
      exact (List.mem_cons.mp hm).resolve_left fun he => hq ⟨queued, he.symm⟩
    case pos =>
      obtain ⟨first, rfl⟩ := hq
      obtain ⟨enough', hf⟩ := first.exists_enough
      refine ⟨max enough enough', fun stack hs queued hm => ?_⟩
      rcases List.mem_cons.mp hm with he | hm
      case inl =>
        cases he
        exact hf stack <| Nat.le_trans (Nat.le_max_right ..) hs
      case inr => exact hi stack (Nat.le_trans (Nat.le_max_left ..) hs) queued hm

-- However clients with plain properties are started, stopped and used on a service that has no
-- documents at first, with any responses that can be sent and failures of transport queued in
-- between: with enough of the stack left, what a call raises is a database error, and every
-- document that is stored has an id and a type.
theorem run_raises_database_errors (token : Option String) (steps : List Step)
    (hs : ∀ step ∈ steps, step.IsOrdinary)
    (hr : ∀ name client, .enter name client ∈ steps → IsRejected client) :
    ∃ enough, ∀ stack : Stack, enough ≤ stack.frames →
      (∀ report ∈ (run { service := { token, stack } } steps).1, ∀ failure,
        report.failure? = some failure →
          ∃ kind, failure.kind? = some kind ∧ kind.isA .database = true) ∧
      ∀ e ∈ (run { service := { token, stack } } steps).2.service.documents,
        ∃ id type : JsonText, e.2.field? "_id" = some (.text id) ∧
          e.2.field? "_type" = some (.text type) := by
  obtain ⟨enough, hd⟩ := exists_enough_enqueue steps
  refine ⟨enough, fun stack he => ?_⟩
  have hb : IsOrdinary stack { service := { token, stack } } :=
    ⟨⟨rfl, ⟨[], rfl, by simp [AreDocuments]⟩, by simp⟩, by simp [Entries.get?]⟩
  obtain ⟨ho, hf⟩ := run_ordinary hb hs (hd stack he) hr
  refine ⟨fun report hm failure h => ?_, fun e he => ?_⟩
  · obtain ⟨kind, hk⟩ := Option.isSome_iff_exists.mp <| hf report hm failure h
    exact ⟨kind, hk, rfl⟩
  · obtain ⟨store, hd, hi⟩ := ho.service.documents
    obtain ⟨e', hm, he⟩ := List.mem_map.mp (hd ▸ he)
    obtain ⟨key, hk⟩ := (hi e' hm).id
    obtain ⟨table, ht⟩ := (hi e' hm).type
    subst he
    exact ⟨key, table, by simp [Record.field?_document, hk], by simp [Record.field?_document, ht]⟩

-- A client that is used before it is started, that meets with a failure of transport, and whose
-- fields take the places of the id and the type.
def sample : List Step :=
  [.enter "a" { properties := [("sanity.dataset", .text "main")] },
   .call "a" (.read "t" "k" none []),
   .call "a" .start,
   .enqueue (.failure ⟨.timeout, "slow"⟩),
   .call "a" (.delete "t" "k"),
   .call "a" (.insert "t" "k" [("_id", .text "x"), ("_type", .other (.int 1))]),
   .call "a" (.insert "t" "k" [("f", .bytes [0xFF])]),
   .call "a" (.scan "t" "" 10 (some ["\x7d"]) [])]

theorem isRejected_sample :
    ∀ name client, .enter name client ∈ sample → IsRejected client := by
  intro name client hm σ hσ d fault hd hp
  simp only [sample, List.mem_cons, Step.enter.injEq, reduceCtorEq, List.not_mem_nil, or_false,
    or_self] at hm
  obtain ⟨_, hm⟩ := hm
  subst hm
  have hs : Settings.ofProperties [("sanity.dataset", .text "main")] =
      .ok { dataset := "main" } := by decide +kernel
  cases hσ.symm.trans hs
  have ha : Request.IsWebAddress (Settings.queryAddress { dataset := "main" }) ∧
      Request.IsWebAddress (Settings.mutateAddress { dataset := "main" }) := by decide +kernel
  rcases hd with hd | hd
  case inl => exact Request.isTransport_of_prepare (hd ▸ ha.left) hp
  case inr => exact Request.isTransport_of_prepare (hd ▸ ha.right) hp

theorem run_raises_database_errors_sample :
    (∀ step ∈ sample, step.IsOrdinary) ∧
    (∀ name client, .enter name client ∈ sample → IsRejected client) ∧
    ∃ enough, ∀ stack : Stack, enough ≤ stack.frames →
      ∀ report ∈ (run { service := { token := some "secret", stack } } sample).1, ∀ failure,
        report.failure? = some failure →
          ∃ kind, failure.kind? = some kind ∧ kind.isA .database = true := by
  have hp : Settings.ArePlain [("sanity.dataset", .text "main")] := by simp [Settings.ArePlain]
  have hn : Text.isOverlong 10 = false := Text.isOverlong_of_lt (by decide)
  have hs : ∀ step ∈ sample, step.IsOrdinary := by
    simp only [sample, List.forall_mem_cons]
    exact ⟨⟨rfl, hp⟩, trivial, trivial, rfl, trivial, trivial, trivial, hn, by simp⟩
  have ⟨enough, h⟩ := run_raises_database_errors (some "secret") sample hs isRejected_sample
  exact ⟨hs, isRejected_sample, enough, fun stack he => (h stack he).left⟩

-- A response whose text is a lone surrogate cannot be sent, and what is raised is no database
-- error.
theorem run_lone_surrogate :
    let text : JsonText := .broken [.surrogate 0] rfl
    let steps : List Step :=
      [.enter "a" { properties := [("sanity.dataset", .text "main")] },
       .call "a" .start,
       .enqueue (.response ⟨200, text⟩),
       .call "a" (.read "t" "k" none [])]
    ((run {} steps).1.filterMap Report.failure?).map Failure.kind? = [none] := by
  decide +kernel

end Bench

end DocStore
