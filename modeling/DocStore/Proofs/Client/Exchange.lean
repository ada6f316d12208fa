import DocStore.Proofs.Request
import DocStore.Proofs.Service.Apply

namespace DocStore

open Mutation

-- Results that come to the same, but for what a mask hides of their errors.
inductive Agree {ε σ α : Type} (mask : ε → σ) (R : α → α → Prop) : Except ε α → Except ε α → Prop
  | error {e e' : ε} (h : mask e' = mask e) : Agree mask R (.error e) (.error e')
  | ok {a a' : α} (h : R a a') : Agree mask R (.ok a) (.ok a')

theorem Agree.refl {ε σ α : Type} (mask : ε → σ) (result : Except ε α) :
    Agree mask Eq result result := by
  cases result
  case error => exact .error rfl
  case ok => exact .ok rfl

-- Results that come to the same as a third one come to the same.
theorem Agree.join {ε σ α : Type} {mask : ε → σ} {R : α → α → Prop}
    {result result₁ result₂ : Except ε α} (h₁ : Agree mask Eq result result₁)
    (h₂ : Agree mask Eq result result₂) (hr : ∀ a, R a a) : Agree mask R result₁ result₂ := by
  cases h₁
  case error he =>
    cases h₂
    case error he' => exact .error <| he'.trans he.symm
  case ok ha =>
    cases h₂
    case ok ha' => exact .ok <| ha ▸ ha' ▸ hr _

def QueuedAnswer.result : QueuedAnswer → Except Service.Fault Response
  | .response r => r.sent
  | .failure f => .error (.queued f)

namespace Service

variable {s : Service} {r : Request}

theorem send_of_queue_nil (h : s.queue = []) :
    s.send r = ({ s with
      record    := s.record ++ [r]
      documents := (answer s.token s.stack r s.documents).1 },
      (answer s.token s.stack r s.documents).2.bind (Answer.response s.stack)) := by
  simp [send, h]

theorem send_of_queue_cons {queued : QueuedAnswer} {rest : List QueuedAnswer}
    (h : s.queue = queued :: rest) :
    s.send r = ({ s with record := s.record ++ [r], queue := rest }, queued.result) := by
  cases queued <;> simp [send, h, QueuedAnswer.result]

-- Every request is recorded, whatever comes of it.
theorem record_send (s : Service) (r : Request) : (s.send r).1.record = s.record ++ [r] := by
  cases hq : s.queue
  case nil => rw [send_of_queue_nil hq]
  case cons => rw [send_of_queue_cons hq]

theorem latest?_send (s : Service) (r : Request) : (s.send r).1.latest? = some r := by
  rw [latest?, record_send, List.getLast?_concat]

-- Requests for queries leave the documents as they are, at every endpoint.
theorem answer_of_get (token : Option String) (stack : Stack) (h : r.method = "GET")
    (documents : Documents) : (answer token stack r documents).1 = documents := by
  have hp : r.method ≠ "POST" := h ▸ by decide
  unfold answer
  repeat' split
  all_goals rfl

-- Posted requests are taken for mutations, or refused without a look at the documents.
theorem answer_of_post (token : Option String) (stack : Stack) (h : r.method = "POST") :
    (∀ documents, answer token stack r documents = answerMutate stack r documents) ∨
    ∃ refusal, (∀ documents, answer token stack r documents = (documents, .ok refusal)) ∧
      .ofCode refusal.code ≠ Status.ok ∧ refusal.IsBrief := by
  have hg : r.method ≠ "GET" := h ▸ by decide
  unfold answer
  split
  case isTrue =>
    split
    case h_1 => exact .inr ⟨_, fun _ => rfl, by decide, ⟨by decide, by decide, rfl⟩⟩
    case h_2 => exact .inr ⟨methodNotAllowed, by simp, by decide, ⟨by decide, by decide, rfl⟩⟩
    case h_3 => exact .inl <| by simp
  case isFalse => exact .inr ⟨_, fun _ => rfl, by decide, ⟨by decide, by decide, rfl⟩⟩

end Service

namespace Client

-- What a client with a session asks to be sent.
def draft (method address : String) (parameters : List (String × String)) (body : Option String)
    (headers : Headers) : Request.Draft where
  method     := method
  address    := address
  parameters := parameters
  headers    := headers.given
  body       := body.map .text

-- The lines that are logged before a request and after its response.
def attempt (method address : String) : LogLine :=
  ⟨.debug, method ++ " " ++ address⟩

def received (method address : String) (response : Response) : LogLine :=
  ⟨.debug, method ++ " " ++ address ++ " -> " ++ response.code.repr⟩

def answered (method address : String) (r : Request)
    (sent : Service × Except Service.Fault Response) : Outcome (Request × Response) :=
  match sent with
  | (s, .error fault) => ⟨.error (.ofFault method address fault), [attempt method address], s⟩
  | (s, .ok response) =>
    if Text.isOverlong response.code then ⟨.error .overlongCode, [attempt method address], s⟩
    else ⟨.ok (r, response), [attempt method address, received method address response], s⟩

theorem service_answered (method address : String) (r : Request)
    (sent : Service × Except Service.Fault Response) :
    (answered method address r sent).service = sent.1 := by
  unfold answered
  repeat' split
  all_goals rfl

section

variable {c : Client} {method address : String} {parameters : List (String × String)}
  {body : Option String} {headers : Headers}

theorem exchange_of_session_none (hc : c.session = none) (s : Service) :
    c.exchange s method address parameters body =
      ⟨.error .notReady, [attempt method address], s⟩ := by
  rw [exchange, hc]
  rfl

theorem exchange_of_prepare_error (hc : c.session = some headers) {fault : Request.Fault}
    (hp : Request.prepare (draft method address parameters body headers) = .error fault)
    (s : Service) :
    c.exchange s method address parameters body =
      ⟨.error (.ofRejection method address fault), [attempt method address], s⟩ := by
  rw [draft] at hp
  rw [exchange, hc]
  simp only [hp]
  rfl

theorem exchange_of_prepare (hc : c.session = some headers) {r : Request}
    (hp : Request.prepare (draft method address parameters body headers) = .ok r) (s : Service) :
    c.exchange s method address parameters body = answered method address r (s.send r) := by
  rw [draft] at hp
  rw [exchange, hc]
  simp only [hp]
  rcases s.send r with ⟨s', _ | _⟩ <;> rfl

end

section

variable (c : Client) (s : Service) (method address : String) (parameters : List (String × String))
  (body : Option String)

-- The ways in which an exchange can end.
inductive Exchange : Outcome (Request × Response) → Prop where
  | notReady (log : List LogLine) (hc : c.session = none) : Exchange ⟨.error .notReady, log, s⟩
  | rejected {headers : Headers} {fault : Request.Fault} (log : List LogLine)
    (hc : c.session = some headers)
    (hp : Request.prepare (draft method address parameters body headers) = .error fault) :
    Exchange ⟨.error (.ofRejection method address fault), log, s⟩
  | failed {headers : Headers} {r : Request} {fault : Service.Fault} (log : List LogLine)
    (hc : c.session = some headers)
    (hp : Request.prepare (draft method address parameters body headers) = .ok r)
    (hr : (s.send r).2 = .error fault) :
    Exchange ⟨.error (.ofFault method address fault), log, (s.send r).1⟩
  | unlogged {headers : Headers} {r : Request} {response : Response} (log : List LogLine)
    (hc : c.session = some headers)
    (hp : Request.prepare (draft method address parameters body headers) = .ok r)
    (hr : (s.send r).2 = .ok response) (ho : Text.isOverlong response.code = true) :
    Exchange ⟨.error .overlongCode, log, (s.send r).1⟩
  | received {headers : Headers} {r : Request} {response : Response} (log : List LogLine)
    (hc : c.session = some headers)
    (hp : Request.prepare (draft method address parameters body headers) = .ok r)
    (hr : (s.send r).2 = .ok response) (ho : Text.isOverlong response.code = false) :
    Exchange ⟨.ok (r, response), log, (s.send r).1⟩

theorem exchange_spec :
    Exchange c s method address parameters body (c.exchange s method address parameters body) := by
  unfold exchange
  cases hc : c.session
  case none => exact .notReady _ hc
  case some headers =>
    dsimp only
    split
    case h_1 fault hp => exact .rejected _ hc hp
    case h_2 r hp =>
      split
      case h_1 hr => simpa only [hr] using Exchange.failed _ hc hp (congrArg Prod.snd hr)
      case h_2 hr =>
        split
        case isTrue ho =>
          simpa only [hr] using Exchange.unlogged _ hc hp (congrArg Prod.snd hr) ho
        case isFalse ho =>
          simpa only [hr] using
            Exchange.received _ hc hp (congrArg Prod.snd hr) (Bool.eq_false_iff.mpr ho)

theorem service_exchange :
    (c.exchange s method address parameters body).service = s ∨
    ∃ headers r, Request.prepare (draft method address parameters body headers) = .ok r ∧
      (c.exchange s method address parameters body).service = (s.send r).1 := by
  have he := exchange_spec c s method address parameters body
  revert he
  generalize c.exchange s method address parameters body = o
  intro he
  cases he
  case notReady => exact .inl rfl
  case rejected => exact .inl rfl
  case failed hp _ => exact .inr ⟨_, _, hp, rfl⟩
  case unlogged hp _ _ => exact .inr ⟨_, _, hp, rfl⟩
  case received hp _ _ => exact .inr ⟨_, _, hp, rfl⟩

end

theorem service_andThen {α β : Type} (o : Outcome α)
    (next : α → Except Failure β × List LogLine) : (o.andThen next).service = o.service := by
  unfold Outcome.andThen
  split <;> rfl

section

variable {method address body : String} {parameters : List (String × String)} {headers : Headers}
  {stack : Stack} {r : Request} {v : Json}

theorem body_of_draft (h : Json.read stack body = .ok v)
    (hp : Request.prepare (draft method address parameters (some body) headers) = .ok r) :
    r.body = some (.text body) :=
  (Request.eq_of_prepare hp).right.trans <| Service.filter_of_read h

theorem bodyJson_of_draft (h : Json.read stack body = .ok v)
    (hp : Request.prepare (draft method address parameters (some body) headers) = .ok r)
    (default : String) : Service.bodyJson stack r default = .ok v :=
  Service.bodyJson_eq default (body_of_draft h hp) h

end

def mode (c : Client) : CreateMode :=
  (c.settings.getD {}).insertMode

theorem insertKind_of_settings {c : Client} {σ : Settings} (h : c.settings = some σ) :
    σ.insertKind = .create c.mode := by
  simp [Settings.insertKind, mode, h]

section

variable (c : Client) (s : Service) (m : Mutation)

-- The ways in which an insert, an update or a delete can end: only a mutation that has a body is
-- submitted, and only by a client with settings.
inductive Change : Outcome Status → Prop where
  | notReady (hc : c.settings = none) : Change (.fail s .notReady)
  | badBytes {e : Utf8.Error} (hp : m.payload = .error e) : Change (.fail s (.badBytes e))
  | submitted {σ : Settings} {payload : Entries JsonText Json}
    (parameters : List (String × String)) (hc : c.settings = some σ)
    (hp : m.payload = .ok payload) :
    Change (c.submit s σ.mutateAddress (envelope m.kind payload).compact parameters)

theorem post_spec : Change c s m (c.post s m) := by
  unfold post body
  cases hp : m.payload
  case error => exact .badBytes hp
  case ok payload =>
    simp only [Except.map]
    split
    case h_1 hc => exact .notReady hc
    case h_2 hc => exact .submitted _ hc hp

theorem insert_spec (type id : JsonText) (values : List (JsonText × FieldInput)) :
    Change c s ⟨.create c.mode, type, id, values⟩ (c.insert s type id values) := by
  unfold insert body
  split
  case h_1 hc => exact .notReady hc
  case h_2 σ hc =>
    rw [insertKind_of_settings hc]
    cases hp : payload ⟨.create c.mode, type, id, values⟩
    case error => exact .badBytes hp
    case ok => exact .submitted _ hc hp

end

end Client

end DocStore
