import DocStore.Proofs.Client.Responses

namespace DocStore

def Failure.nature (failure : Failure) : ErrorKind ⊕ Failure :=
  match failure.kind? with
  | some kind => .inl kind
  | none => .inr failure

theorem Failure.nature_ofRejection {fault fault' : Request.Fault} (h : fault.Alike fault')
    (method address : String) :
    (ofRejection method address fault').nature = (ofRejection method address fault).nature := by
  rcases h with rfl | ⟨h, h'⟩
  case inl => rfl
  case inr =>
    rw [ofRejection, ofRejection, if_pos h, if_pos h']
    rfl

namespace Service

open Request (carrying)

variable {r : Request}

-- What a request for a query is told without a look at the query, if it does not get that far.
def rebuff? (token : Option String) (r : Request) : Option Answer :=
  if authorizes token r then
    match endpoint? r.url.path with
    | none => some notFound
    | some .query => none
    | some .mutate => some methodNotAllowed
  else some unauthorized

theorem answer_of_rebuff? (token : Option String) (stack : Stack) (h : r.method = "GET")
    (documents : Documents) :
    (answer token stack r documents).2 =
      match rebuff? token r with
      | some a => .ok a
      | none => answerQuery stack ((parameter? r "query").getD "") documents := by
  unfold answer rebuff?
  cases authorizes token r
  case false => rfl
  case true =>
    cases endpoint? r.url.path with
    | none => rfl
    | some endpoint => cases endpoint <;> simp [h]

-- Either the service does not get to look at the query of a request, or it looks at nothing else.
theorem send_carrying (s : Service) (hm : r.method = "GET") (isBroken : Bool)
    (query : List Char) :
    (∃ result, ∀ text, text ≠ "" →
      (s.send (r.carrying isBroken query [("query", text)] none)).2 = result) ∨
    s.queue = [] ∧ ∀ text, text ≠ "" →
      (s.send (r.carrying isBroken query [("query", text)] none)).2 =
        (answerQuery s.stack (if isBroken then Form.spelled text else text) s.documents).bind
          (Answer.response s.stack) := by
  cases hq : s.queue
  case cons => exact .inl ⟨_, fun _ _ => by rw [send_of_queue_cons hq]⟩
  case nil =>
    have ha (text : String) := @answer_of_rebuff? (r.carrying isBroken query [("query", text)] none)
      s.token s.stack hm s.documents
    have hr (text : String) :
        rebuff? s.token (r.carrying isBroken query [("query", text)] none) = rebuff? s.token r :=
      rfl
    simp only [send_of_queue_nil hq, ha, hr]
    cases rebuff? s.token r
    case some a => exact .inl ⟨_, fun _ _ => rfl⟩
    case none =>
      have hp (text : String) (ht : text ≠ "") :=
        Request.parameter?_carrying r isBroken query none ht
      cases hf : ((Form.decode (Url.sendPart isBroken query)).find? (·.1 = "query")).map Prod.snd
      case some own =>
        refine .inl ⟨(answerQuery s.stack own s.documents).bind (Answer.response s.stack),
          fun text ht => ?_⟩
        rw [hp text ht, hf]
        rfl
      case none =>
        refine .inr ⟨trivial, fun text ht => ?_⟩
        rw [hp text ht, hf]
        rfl

end Service

namespace Client

variable (c : Client) (s : Service)

def answerFrom (stack : Stack) (address : String) :
    Except Service.Fault Response → Except Failure Answer
  | .error fault => .error (.ofFault "GET" address fault)
  | .ok response =>
    if Text.isOverlong response.code then .error .overlongCode else answerOf stack response

theorem answerFrom_of_code {stack : Stack} {response : Response} (h : response.code = 200)
    (address : String) : answerFrom stack address (.ok response) = answerOf stack response := by
  have hl : Text.isOverlong response.code = false := h ▸ Text.isOverlong_of_lt (by decide)
  rw [answerFrom, hl, if_neg Bool.false_ne_true]

theorem answerFrom_of_parse?_none {text : String} (h : Selection.parse? text.toList = none)
    (stack : Stack) (address : String) (documents : Documents) :
    answerFrom stack address ((Service.answerQuery stack text documents).bind
      (Service.Answer.response stack)) = .ok (.ended .badRequest) := by
  have hb := Service.isBrief_unsupportedQuery text
  rw [Service.answerQuery, h]
  simp only [Except.bind, hb.response, answerFrom, hb.code, Bool.false_eq_true, if_false, answerOf]
  rfl

theorem ask_of_prepare {σ : Settings} {headers : Headers} {r : Request} {text : String}
    (hσ : c.settings = some σ) (hh : c.session = some headers)
    (hp : Request.prepare (draft "GET" σ.queryAddress [("query", text)] none headers) = .ok r) :
    (c.ask s text).result = answerFrom s.stack σ.queryAddress (s.send r).2 := by
  rw [ask, hσ]
  simp only [exchange_of_prepare hh hp]
  rcases s.send r with ⟨s', _ | response⟩
  case error => rfl
  case ok =>
    cases ho : Text.isOverlong response.code <;>
      simp [answered, ho, Outcome.andThen, answerFrom, interpret_eq]

theorem ask_of_prepare_error {σ : Settings} {headers : Headers} {fault : Request.Fault}
    {text : String} (hσ : c.settings = some σ) (hh : c.session = some headers)
    (hp : Request.prepare (draft "GET" σ.queryAddress [("query", text)] none headers) =
      .error fault) :
    (c.ask s text).result = .error (.ofRejection "GET" σ.queryAddress fault) := by
  rw [ask, hσ]
  simp only [exchange_of_prepare_error hh hp]
  rfl

-- What a client is told of its query depends on the text of the query only where it is looked up in
-- the documents, perhaps in its escaped form.
theorem ask_cases :
    (∃ result : Except Failure Answer, ∀ text, text ≠ "" →
      Agree Failure.nature Eq result (c.ask s text).result) ∨
    s.queue = [] ∧ ∃ (address : String) (isBroken : Bool), ∀ text, text ≠ "" →
      (c.ask s text).result = answerFrom s.stack address
        ((Service.answerQuery s.stack (if isBroken then Form.spelled text else text)
          s.documents).bind (Service.Answer.response s.stack)) := by
  cases hσ : c.settings
  case none => exact .inl ⟨_, fun text _ => by rw [ask, hσ]; exact .refl ..⟩
  case some σ =>
    cases hh : c.session
    case none =>
      refine .inl ⟨.error .notReady, fun text _ => ?_⟩
      rw [ask, hσ]
      simp only [exchange_of_session_none hh]
      exact .refl ..
    case some headers =>
      rcases Request.prepare_cases "GET" σ.queryAddress headers.given with
        ⟨fault, hf⟩ | ⟨r, isBroken, query, hp, hm, -, -⟩
      case inl =>
        refine .inl ⟨.error (.ofRejection "GET" σ.queryAddress fault), fun text _ => ?_⟩
        obtain ⟨fault', ha, hf⟩ := hf [("query", text)] none
        rw [c.ask_of_prepare_error s hσ hh hf]
        exact .error <| Failure.nature_ofRejection ha ..
      case inr =>
        have hm : r.method = "GET" := hm.trans (by decide +kernel)
        have ha (text : String) := c.ask_of_prepare s hσ hh (hp [("query", text)] none)
        simp only [ha]
        rcases Service.send_carrying s hm isBroken query with ⟨result, hr⟩ | ⟨hq, hr⟩
        case inl =>
          exact .inl ⟨answerFrom s.stack σ.queryAddress result,
            fun text ht => hr text ht ▸ .refl ..⟩
        case inr =>
          exact .inr ⟨hq, σ.queryAddress, isBroken, fun text ht => by rw [hr text ht]⟩

end Client

end DocStore
