import DocStore.Proofs.Client.Rows

namespace DocStore

def Edit.applied (m : Edit) (fields : Record) : Documents → Service.Attempt Unit :=
  Service.applyKind m.kind.name (.object (m.payloadWith fields))

namespace Client

open Mutation Service

-- The requests of a session to an address arrive at an endpoint, with the token that it asks for.
def Reaches (headers : Headers) (token : Option String) (method address : String)
    (endpoint : Endpoint) : Prop :=
  '?' ∉ address.toList ∧
    ∃ r, Request.prepare (draft method address [] none headers) = .ok r ∧ '%' ∉ r.url.host ∧
      endpoint? r.url.path = some endpoint ∧ authorizes token r = true

def Ready (c : Client) (token : Option String) : Prop :=
  ∃ σ headers, c.settings = some σ ∧ c.session = some headers ∧
    Reaches headers token "GET" σ.queryAddress .query ∧
    Reaches headers token "POST" σ.mutateAddress .mutate

instance (headers : Headers) (token : Option String) (method address : String)
    (endpoint : Endpoint) : Decidable (Reaches headers token method address endpoint) :=
  match h : Request.prepare (draft method address [] none headers) with
  | .ok r =>
    decidable_of_iff ('?' ∉ address.toList ∧ '%' ∉ r.url.host ∧
      endpoint? r.url.path = some endpoint ∧ authorizes token r = true) (by simp [Reaches, h])
  | .error _ => isFalse (by simp [Reaches, h])

instance (c : Client) (token : Option String) : Decidable (c.Ready token) :=
  match hσ : c.settings, hs : c.session with
  | some σ, some headers =>
    decidable_of_iff (Reaches headers token "GET" σ.queryAddress .query ∧
      Reaches headers token "POST" σ.mutateAddress .mutate) (by simp [Ready, hσ, hs])
  | some _, none => isFalse (by simp [Ready, hs])
  | none, _ => isFalse (by simp [Ready, hσ])

section

variable {headers : Headers} {token : Option String} {method address : String} {endpoint : Endpoint}

-- Parameters and a body change nothing about where a request arrives.
theorem prepare_of_reaches (h : Reaches headers token method address endpoint)
    (parameters : List (String × String)) (body : Option String) :
    ∃ r, Request.prepare (draft method address parameters body headers) = .ok r ∧
      endpoint? r.url.path = some endpoint ∧ authorizes token r = true ∧
      r.url.query = Form.encode parameters := by
  have ⟨hq, r, hp, hh, he, ha⟩ := h
  rcases Request.prepare_cases method address headers.given with
    ⟨_, hf⟩ | ⟨r', isBroken, query, hr, _, hn, hb⟩
  case inl =>
    have ⟨_, _, hf⟩ := hf [] none
    cases hp.symm.trans hf
  case inr =>
    cases hp.symm.trans <| hr [] none
    have hb : isBroken = false := by
      cases isBroken
      case false => rfl
      case true => exact absurd (hb rfl) hh
    refine ⟨_, hr parameters (body.map .text), he, ha, ?_⟩
    simp [Request.carrying, hb, hn hq, Url.sendPart_encode]

end

variable {c : Client} {s : Service}

theorem exchange_of_reaches {headers : Headers} {method address : String} {endpoint : Endpoint}
    (hc : c.session = some headers) (h : Reaches headers s.token method address endpoint)
    (parameters : List (String × String)) (body : Option String) :
    ∃ r, Request.prepare (draft method address parameters body headers) = .ok r ∧
      endpoint? r.url.path = some endpoint ∧ authorizes s.token r = true ∧
      r.url.query = Form.encode parameters ∧
      c.exchange s method address parameters body = answered method address r (s.send r) := by
  have ⟨r, hp, he, ha, hq⟩ := prepare_of_reaches h parameters body
  exact ⟨r, hp, he, ha, hq, exchange_of_prepare hc hp s⟩

-- A query of a ready client arrives, and is answered from the documents.
theorem exists_ask_of_ready (hc : c.Ready s.token) (hq : s.queue = []) {query : String}
    (hn : query ≠ "") :
    ∃ r address, c.ask s query =
      (answered "GET" address r ({ s with record := s.record ++ [r] },
        (answerQuery s.stack query s.documents).bind (Answer.response s.stack))).andThen
          fun (request, response) => interpret s.stack query request response := by
  obtain ⟨σ, headers, hσ, hs, hr, _⟩ := hc
  obtain ⟨r, hp, he, ht, hf, hx⟩ := exchange_of_reaches hs hr [("query", query)] none
  have hd : parameter? r "query" = some query := by
    have hd := @Form.decode_encode [("query", query)] (by simpa using hn)
    simp [parameter?, Request.parameters, hf, hd]
  have hm := Request.method_of_get rfl hp
  have ha : answer s.token s.stack r s.documents =
      (s.documents, answerQuery s.stack query s.documents) := by
    simp [answer, ht, he, hm, hd]
  rw [send_of_queue_nil hq, ha] at hx
  refine ⟨r, σ.queryAddress, ?_⟩
  rw [ask, hσ]
  simp only [hx]

section

variable (hc : c.Ready s.token) (hq : s.queue = []) {query : String} (hn : query ≠ "")
include hc hq hn

theorem service_ask_of_ready :
    ∃ r, (c.ask s query).service = { s with record := s.record ++ [r] } := by
  obtain ⟨r, address, ha⟩ := exists_ask_of_ready hc hq hn
  exact ⟨r, by rw [ha, service_andThen, service_answered]⟩

-- The rows that the service finds are the rows that the client finds.
theorem ask_of_finds {a : Service.Answer} {rows : List Response.Row} {response : Response}
    (ha : answerQuery s.stack query s.documents = .ok a)
    (hr : a.response s.stack = .ok response) (hf : response.Finds s.stack rows) :
    (c.ask s query).result = .ok (.found rows) := by
  obtain ⟨r, address, h⟩ := exists_ask_of_ready hc hq hn
  have hl : Text.isOverlong response.code = false := by
    rw [hf.left]
    exact Text.isOverlong_of_lt (by decide)
  have hi : interpret s.stack query r response = (.ok (.found rows), []) := by
    rw [interpret, hf.left, if_neg (by decide), hf.right]
  rw [h, ha, Except.bind, hr]
  simp [answered, hl, Outcome.andThen, hi]

theorem ask_of_fault {fault : Service.Fault}
    (ha : (answerQuery s.stack query s.documents).bind (Answer.response s.stack) = .error fault) :
    ∃ address, (c.ask s query).result = .error (.ofFault "GET" address fault) := by
  obtain ⟨r, address, h⟩ := exists_ask_of_ready hc hq hn
  exact ⟨address, by rw [h, ha]; rfl⟩

theorem ask_of_unsupported (hp : Selection.parse? query.toList = none) :
    (c.ask s query).result = .ok (.ended .badRequest) := by
  obtain ⟨r, address, h⟩ := exists_ask_of_ready hc hq hn
  have hb := isBrief_unsupportedQuery query
  have hi (text : String) :
      (interpret s.stack query r ⟨400, text⟩).1 = .ok (.ended .badRequest) := by
    rw [interpret, if_pos (by simp)]
    rfl
  rw [h, answerQuery, hp]
  simp only [Except.bind, hb.response, answered, hb.code]
  exact hi _

end

section

variable {σ : Settings} {headers : Headers} (hs : c.session = some headers)
  (hr : Reaches headers s.token "POST" σ.mutateAddress .mutate) (hq : s.queue = [])
  {kind : MutationKind} {type id body : String} {fields : Record}
  (h : Json.read s.stack body = .ok (envelope kind (payloadOf kind type id fields.members)))
include hs hr hq h

theorem submit_of_means {status : Status} (hm : Means (applyKind kind.name
      (.object (payloadOf kind type id fields.members)) s.documents).2 status)
    (parameters : List (String × String)) :
    ∃ r, (c.submit s σ.mutateAddress body parameters).result = .ok status ∧
      (c.submit s σ.mutateAddress body parameters).service =
        { s with
          record    := s.record ++ [r]
          documents := (applyKind kind.name
            (.object (payloadOf kind type id fields.members)) s.documents).1 } := by
  obtain ⟨r, hp, he, ht, _, hx⟩ := exchange_of_reaches hs hr parameters (some body)
  obtain ⟨a, ho, rfl⟩ := hm <| entryOf kind.name (.object (payloadOf kind type id fields.members))
  have ha : answer s.token s.stack r s.documents = ((applyKind kind.name
      (.object (payloadOf kind type id fields.members)) s.documents).1, .ok a) := by
    rw [← ho, ← answerMutate_envelope (bodyJson_of_draft h hp _)]
    simp [answer, ht, he, Request.method_of_post rfl hp]
  have hb := isBrief_answerOf ho
  rw [send_of_queue_nil hq, ha] at hx
  refine ⟨r, ?_, ?_⟩
  · simp [submit, hx, Except.bind, hb.response, answered, hb.code, Outcome.andThen, statusOf]
  · rw [submit, service_andThen, hx, service_answered]

-- On a dataset of records it does what it does to the plain store.
theorem submit_of_ready {store : KeyedStore} (hd : s.documents = store.documents)
    (parameters : List (String × String)) :
    ∃ r, (c.submit s σ.mutateAddress body parameters).result =
        .ok (store.mutate kind type id fields).1 ∧
      (c.submit s σ.mutateAddress body parameters).service =
        { s with
          record    := s.record ++ [r]
          documents := (store.mutate kind type id fields).2.documents } := by
  have ⟨_, ha, hm⟩ := applyKind_documents kind type id fields store
  rw [← hd] at ha
  have hm : Means (applyKind kind.name (.object (payloadOf kind type id fields.members))
      s.documents).2 (store.mutate kind type id fields).1 := by rwa [ha]
  have ⟨r, hr, hx⟩ := submit_of_means hs hr hq h hm parameters
  exact ⟨r, hr, by rw [hx, ha]⟩

end

-- A change by a ready client is applied to the documents, and its status tells how that ended.
theorem change_of_ready {m : Edit} {fields : List (String × JsonText)} {o : Outcome Status}
    (h : Change c s m.mutation o) (hc : c.Ready s.token) (hq : s.queue = [])
    (ht : Edit.texts m.values = .ok fields) :
    ∃ r status, Means (m.applied (Entries.ofList fields) s.documents).2 status ∧
      o.result = .ok status ∧
      o.service = { s with
        record    := s.record ++ [r]
        documents := (m.applied (Entries.ofList fields) s.documents).1 } := by
  obtain ⟨σ, headers, hσ, hs, _, hr⟩ := hc
  cases h
  case notReady hn => cases hσ.symm.trans hn
  case badBytes hn => cases ht.symm.trans (Edit.texts_of_payload_error hn)
  case submitted parameters hσ' hp =>
    cases hσ.symm.trans hσ'
    have ⟨_, ht', hj⟩ := Edit.read_payload hp
    cases ht.symm.trans ht'
    have ⟨status, hm⟩ := exists_means m.kind m.type m.id (Entries.ofList fields) s.documents
    have ⟨r, ho, hx⟩ := submit_of_means hs hr hq (hj s.stack) hm parameters
    exact ⟨r, status, hm, ho, hx⟩

end Client

end DocStore
