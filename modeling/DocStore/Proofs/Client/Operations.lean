import DocStore.Proofs.Client.Unchanged
import DocStore.Proofs.Query.RoundTrip

namespace DocStore

namespace Bench

def Call.isOperation : Call → Bool
  | .start => false
  | .stop => false
  | _ => true

-- What an operation asks to be sent under some settings, with the headers of a session. Of
-- arguments that are not accepted nothing comes.
def Call.draft? (σ : Settings) (headers : Headers) : Call → Option Request.Draft
  | .start => none
  | .stop => none
  | .read type id fields _ =>
    let query := (Query.lookup type id (fields.getD [])).text
    some (Client.draft "GET" σ.queryAddress [("query", query)] none headers)
  | .scan type bound count fields _ =>
    (Selection.rangeText type bound count (fields.getD [])).toOption.map fun query =>
      Client.draft "GET" σ.queryAddress [("query", query)] none headers
  | .insert type id values =>
    (Edit.mutation ⟨σ.insertKind, type, id, values⟩).body.toOption.map fun body =>
      Client.draft "POST" σ.mutateAddress [("visibility", σ.visibility.name)] (some body) headers
  | .update type id values =>
    (Edit.mutation ⟨.patch, type, id, values⟩).body.toOption.map fun body =>
      Client.draft "POST" σ.mutateAddress [] (some body) headers
  | .delete type id =>
    (Edit.mutation ⟨.delete, type, id, []⟩).body.toOption.map fun body =>
      Client.draft "POST" σ.mutateAddress [] (some body) headers

theorem method_of_draft? {call : Call} {σ : Settings} {headers : Headers} {d : Request.Draft}
    (h : call.draft? σ headers = some d) : d.method = if call.isQuery then "GET" else "POST" := by
  cases call
  case start => cases h
  case stop => cases h
  case read =>
    cases h
    rfl
  all_goals
    rw [Call.draft?] at h
    obtain ⟨_, _, rfl⟩ := Option.map_eq_some_iff.mp h
    rfl

-- The change that a call asks for, of a client that creates documents in some mode.
def Call.edit? (mode : CreateMode) : Call → Option Edit
  | .insert type id values => some ⟨.create mode, type, id, values⟩
  | .update type id values => some ⟨.patch, type, id, values⟩
  | .delete type id => some ⟨.delete, type, id, []⟩
  | _ => none

theorem runCall_of_edit? {c : Client} {call : Call} {m : Edit}
    (h : call.edit? c.mode = some m) (s : Service) :
    ∃ o, Client.Change c s m.mutation o ∧
      runCall c s call = (.call (o.result.map some) o.log .nothing, c, o.service) := by
  cases call
  case insert =>
    cases h
    exact ⟨_, c.insert_spec s .., rfl⟩
  case update =>
    cases h
    exact ⟨_, c.post_spec s _, rfl⟩
  case delete =>
    cases h
    exact ⟨_, c.post_spec s _, rfl⟩
  all_goals cases h

def Call.IsWritable : Call → Prop
  | .scan _ _ count _ _ => Text.isOverlong count = false
  | _ => True

-- How a call fails before anything is asked for: with a database error, or else over a count that
-- cannot be written.
def Call.FailsWith (call : Call) (failure : Failure) : Prop :=
  failure.kind?.isSome = true ∨ ¬call.IsWritable ∧ failure = .badCount .overlong

end Bench

section

variable {address : String} {parameters : List (String × String)} {headers : Headers}
  {d : Request.Draft} {r : Request}

theorem Mutation.body_of_post {m : Mutation}
    (hd : m.body.toOption.map (fun body =>
      Client.draft "POST" address parameters (some body) headers) = some d)
    (hp : Request.prepare d = .ok r) :
    ∃ payload, m.payload = .ok payload ∧
      r.body = some (.text (envelope m.kind payload).compact) := by
  unfold body at hd
  cases hb : m.payload <;> rw [hb] at hd <;> cases hd
  case ok payload => exact ⟨payload, rfl, Client.body_of_draft (read_envelope hb default) hp⟩

theorem Edit.bodyJson_of_post {m : Edit}
    (hd : m.mutation.body.toOption.map (fun body =>
      Client.draft "POST" address parameters (some body) headers) = some d)
    (hp : Request.prepare d = .ok r) :
    ∃ fields, texts m.values = .ok fields ∧ ∀ stack,
      Service.bodyJson stack r "\x7b\x7d" =
        .ok (Mutation.envelope m.kind (m.payloadWith (Entries.ofList fields))) := by
  have ⟨payload, hp, hb⟩ := Mutation.body_of_post hd hp
  have ⟨fields, ht, hr⟩ := m.read_payload hp
  exact ⟨fields, ht, fun stack => Service.bodyJson_eq _ hb (hr stack)⟩

end

namespace Client

open Bench (Call Report reportOf runCall)

-- The request that a call of a client makes, if it makes one.
def request? (c : Client) (call : Call) : Option Request := do
  let σ ← c.settings
  let headers ← c.session
  let d ← call.draft? σ headers
  (Request.prepare d).toOption

-- What makes the report of a call from its exchange: a failure is passed on, and what is made of a
-- response is not up to the service that it came from.
structure Finishes (call : Call) (finish : Outcome (Request × Response) → Report × Service) :
    Prop where
  failed    : ∀ failure log s,
    finish ⟨.error failure, log, s⟩ = (.call (.error failure) log call.untouched, s)
  responded : ∀ answer log, ∃ report, ∀ s, finish ⟨.ok answer, log, s⟩ = (report, s)

-- Why no request of an operation reaches the service: nothing is asked for, or no request can be
-- made of it.
inductive Refuses (c : Client) (call : Call) : Failure → Prop
  | unasked {failure : Failure}
    (hn : ∀ σ headers, c.settings = some σ → c.session = some headers →
      call.draft? σ headers = none)
    (hk : call.FailsWith failure) : Refuses c call failure
  | rejected {σ : Settings} {headers : Headers} {d : Request.Draft} {fault : Request.Fault}
    (hσ : c.settings = some σ) (hh : c.session = some headers)
    (hd : call.draft? σ headers = some d) (hp : Request.prepare d = .error fault) :
    Refuses c call (.ofRejection d.method d.address fault)

def finishQuery {α : Type} (query : String) (into : α) (deliver : Answer → Status × α)
    (delivery : α → Bench.Delivery) (stack : Stack) (o : Outcome (Request × Response)) :
    Report × Service :=
  let answer := o.andThen fun (r, response) => interpret stack query r response
  let (o, into) := collect answer into deliver
  reportOf o (delivery into)

def finishChange (o : Outcome (Request × Response)) : Report × Service :=
  let o := o.andThen fun (r, response) =>
    let (status, log) := statusOf r response
    (.ok status, log)
  reportOf o .nothing

theorem finishes_query {call : Call} {α : Type} {into : α} (delivery : α → Bench.Delivery)
    (hi : delivery into = call.untouched) (query : String) (deliver : Answer → Status × α)
    (stack : Stack) : Finishes call (finishQuery query into deliver delivery stack) where
  failed _ _ _ := by
    rw [← hi]
    rfl
  responded answer log := by
    have ⟨r, response⟩ := answer
    cases h : (interpret stack query r response).1
    case error failure =>
      refine ⟨.call (.error failure) (log ++ (interpret stack query r response).2) (delivery into),
        fun s => ?_⟩
      simp only [finishQuery, Outcome.andThen, collect, h]
      rfl
    case ok a =>
      refine ⟨.call (.ok (deliver a).1) (log ++ (interpret stack query r response).2)
        (delivery (deliver a).2), fun s => ?_⟩
      simp only [finishQuery, Outcome.andThen, collect, h]
      rfl

theorem finishes_change {call : Call} (hi : call.untouched = .nothing) :
    Finishes call finishChange where
  failed _ _ _ := by
    rw [hi]
    rfl
  responded answer log :=
    ⟨.call (.ok (statusOf answer.1 answer.2).1) (log ++ (statusOf answer.1 answer.2).2) .nothing,
      fun _ => rfl⟩

-- An operation comes to nothing of its own accord, or goes on from an exchange.
inductive Asks (c : Client) (call : Call) : Prop
  | fails (failure : Failure)
    (hn : ∀ σ headers, c.settings = some σ → call.draft? σ headers = none)
    (hk : call.FailsWith failure)
    (hr : ∀ s, runCall c s call = (.call (.error failure) [] call.untouched, c, s))
  | exchanges (σ : Settings) (method address : String) (parameters : List (String × String))
    (body : Option String) (finish : Stack → Outcome (Request × Response) → Report × Service)
    (hσ : c.settings = some σ)
    (hd : ∀ headers, call.draft? σ headers = some (draft method address parameters body headers))
    (hf : ∀ stack, Finishes call (finish stack))
    (hr : ∀ s, runCall c s call =
      ((finish s.stack (c.exchange s method address parameters body)).1, c,
        (finish s.stack (c.exchange s method address parameters body)).2))

section

variable (c : Client)

theorem scan_eq (s : Service) (type start : String) (count : Int) (fields : Option (List String))
    (into : List Record) :
    c.scan s type start count fields into =
      match Selection.rangeText type start count (fields.getD []) with
      | .error fault => (.fail s (.badCount fault), into)
      | .ok query => collect (c.ask s query) into (deliverRecords fields into) := by
  rw [scan, Selection.rangeText]
  cases Query.range type start count (fields.getD [])
  case error => rfl
  case ok q => cases hb : q.build <;> simp [Except.bind, hb]

theorem asks_read (type id : String) (fields : Option (List String)) (into : Record) :
    Asks c (.read type id fields into) := by
  cases hσ : c.settings
  case none =>
    refine .fails .notReady (by simp [hσ]) (.inl rfl) fun s => ?_
    simp only [runCall, Client.read, ask, hσ]
    rfl
  case some σ =>
    refine .exchanges σ _ _ _ _ (finishQuery (Query.lookup type id (fields.getD [])).text into
      (deliverRecord fields into) .record) hσ (fun _ => rfl) (finishes_query .record rfl _ _)
      fun s => ?_
    simp only [runCall, Client.read, ask, hσ]
    rfl

-- A count that is negative is told of, unless it is too long to be written.
theorem asks_scan (type start : String) (count : Int) (fields : Option (List String))
    (into : List Record) : Asks c (.scan type start count fields into) := by
  cases hq : Selection.rangeText type start count (fields.getD [])
  case error e =>
    refine .fails (.badCount e) (fun _ _ _ => by simp [Call.draft?, hq, Except.toOption]) ?_
      fun s => ?_
    · rcases Selection.rangeText_cases type start count (fields.getD []) with
        ⟨ho, he⟩ | ⟨_, _, he⟩ | ⟨_, _, rfl, _, _, ht⟩
      case inl =>
        cases hq.symm.trans he
        exact .inr ⟨by simp [Call.IsWritable, ho], rfl⟩
      case inr.inl =>
        cases hq.symm.trans he
        exact .inl rfl
      case inr.inr => cases hq.symm.trans ht
    · rw [runCall, scan_eq, hq]
      rfl
  case ok query =>
    cases hσ : c.settings
    case none =>
      refine .fails .notReady (by simp [hσ]) (.inl rfl) fun s => ?_
      simp only [runCall, scan_eq, hq, ask, hσ]
      rfl
    case some σ =>
      refine .exchanges σ _ _ _ _ (finishQuery query into (deliverRecords fields into) .records) hσ
        (fun _ => by rw [Call.draft?, hq]; rfl) (finishes_query .records rfl _ _) fun s => ?_
      simp only [runCall, scan_eq, hq, ask, hσ]
      rfl

theorem asks_insert (type id : String) (values : List (String × FieldInput)) :
    Asks c (.insert type id values) := by
  cases hσ : c.settings
  case none =>
    refine .fails .notReady (by simp [hσ]) (.inl rfl) fun s => ?_
    simp only [runCall, Client.insert, hσ]
    rfl
  case some σ =>
    cases hb : (Edit.mutation ⟨σ.insertKind, type, id, values⟩).body
    case error e =>
      refine .fails (.badBytes e) (fun _ _ he => ?_) (.inl rfl) fun s => ?_
      · cases hσ.symm.trans he
        simp [Call.draft?, hb, Except.toOption]
      · rw [Edit.mutation] at hb
        simp only [runCall, Client.insert, hσ, hb]
        rfl
    case ok body =>
      refine .exchanges σ _ _ _ _ (fun _ => finishChange) hσ
        (fun _ => by rw [Call.draft?, hb]; rfl) (fun _ => finishes_change rfl) fun s => ?_
      rw [Edit.mutation] at hb
      simp only [runCall, Client.insert, hσ, hb]
      rfl

theorem asks_post {call : Call} (m : Edit) (hu : call.untouched = .nothing)
    (hd : ∀ σ headers, call.draft? σ headers = m.mutation.body.toOption.map fun body =>
      draft "POST" σ.mutateAddress [] (some body) headers)
    (hr : ∀ s, runCall c s call = ((reportOf (c.post s m.mutation) .nothing).1, c,
      (reportOf (c.post s m.mutation) .nothing).2)) : Asks c call := by
  cases hb : m.mutation.body
  case error e =>
    refine .fails (.badBytes e) (fun _ _ _ => by simp [hd, hb, Except.toOption]) (.inl rfl)
      fun s => ?_
    simp only [hr, post, hb, hu]
    rfl
  case ok body =>
    cases hσ : c.settings
    case none =>
      refine .fails .notReady (by simp [hσ]) (.inl rfl) fun s => ?_
      simp only [hr, post, hb, hσ, hu]
      rfl
    case some σ =>
      refine .exchanges σ _ _ _ _ (fun _ => finishChange) hσ (fun _ => by rw [hd, hb]; rfl)
        (fun _ => finishes_change hu) fun s => ?_
      simp only [hr, post, hb, hσ]
      rfl

theorem asks {call : Call} (h : call.isOperation = true) : Asks c call := by
  cases call
  case start => cases h
  case stop => cases h
  case read type id fields into => exact asks_read c type id fields into
  case scan type start count fields into => exact asks_scan c type start count fields into
  case insert type id values => exact asks_insert c type id values
  case update type id values =>
    exact asks_post c ⟨.patch, type, id, values⟩ rfl (fun _ _ => rfl) fun _ => rfl
  case delete type id => exact asks_post c ⟨.delete, type, id, []⟩ rfl (fun _ _ => rfl) fun _ => rfl

-- Either an operation fails and nothing reaches the service, or one request does. Then the report
-- is up to the answer to it.
theorem runCall_cases {call : Call} (h : call.isOperation = true) :
    (∃ failure log, Refuses c call failure ∧
      ∀ s, runCall c s call = (.call (.error failure) log call.untouched, c, s)) ∨
    ∃ σ headers d r, ∃ report : Stack → Except Service.Fault Response → Report,
      c.settings = some σ ∧ c.session = some headers ∧ call.draft? σ headers = some d ∧
      Request.prepare d = .ok r ∧
      ∀ s, runCall c s call = (report s.stack (s.send r).2, c, (s.send r).1) := by
  cases asks c h
  case fails failure hn hk hr =>
    exact .inl ⟨failure, [], .unasked (fun σ headers hσ _ => hn σ headers hσ) hk, hr⟩
  case exchanges σ method address parameters body finish hσ hd hf hr =>
    cases hh : c.session
    case none =>
      refine .inl ⟨.notReady, [attempt method address], .unasked (by simp [hh]) (.inl rfl),
        fun s => ?_⟩
      rw [hr, exchange_of_session_none hh, (hf s.stack).failed]
    case some headers =>
      cases hp : Request.prepare (draft method address parameters body headers)
      case error fault =>
        refine .inl ⟨.ofRejection method address fault, [attempt method address],
          .rejected hσ hh (hd headers) hp, fun s => ?_⟩
        rw [hr, exchange_of_prepare_error hh hp, (hf s.stack).failed]
      case ok r =>
        let report stack result := (finish stack (answered method address r ({}, result))).1
        have hr s : runCall c s call = (report s.stack (s.send r).2, c, (s.send r).1) := by
          rw [hr, exchange_of_prepare hh hp]
          rcases s.send r with ⟨s', fault | response⟩
          case error => simp only [report, answered, (hf s.stack).failed]
          case ok =>
            obtain ⟨_, hx⟩ := (hf s.stack).responded (r, response)
              [attempt method address, received method address response]
            cases ho : Text.isOverlong response.code <;>
              simp [report, answered, ho, (hf s.stack).failed, hx]
        exact .inr ⟨σ, headers, _, r, report, hσ, rfl, hd headers, hp, hr⟩

theorem request?_eq_none {call : Call}
    (hn : ∀ σ headers, c.settings = some σ → c.session = some headers →
      call.draft? σ headers = none) : c.request? call = none := by
  unfold request?
  cases hσ : c.settings
  case none => rfl
  case some σ =>
    cases hh : c.session
    case none => rfl
    case some headers => simp [hn σ headers hσ hh]

variable {c} in
theorem request?_of_draft? {call : Call} {σ : Settings} {headers : Headers} {d : Request.Draft}
    (hσ : c.settings = some σ) (hh : c.session = some headers)
    (hd : call.draft? σ headers = some d) : c.request? call = (Request.prepare d).toOption := by
  simp [request?, hσ, hh, hd]

variable {c} in
theorem draft?_of_request? {call : Call} {r : Request} (h : c.request? call = some r) :
    ∃ σ headers d, c.settings = some σ ∧ c.session = some headers ∧
      call.draft? σ headers = some d ∧ Request.prepare d = .ok r := by
  simp only [request?, Option.bind_eq_bind, Option.bind_eq_some_iff] at h
  obtain ⟨σ, hσ, headers, hh, d, hd, hp⟩ := h
  refine ⟨σ, headers, d, hσ, hh, hd, ?_⟩
  cases hp' : Request.prepare d
  case error => simp [hp', Except.toOption] at hp
  case ok => simpa [hp', Except.toOption] using hp

variable {c} in
theorem request?_of_refuses {call : Call} {failure : Failure} (h : Refuses c call failure) :
    c.request? call = none := by
  cases h
  case unasked hn _ => exact request?_eq_none c hn
  case rejected hσ hh hd hp => rw [request?_of_draft? hσ hh hd, hp, Except.toOption]

-- A call leaves the service alone, or makes one request, and its report is up to the answer.
theorem runCall_request (call : Call) :
    (c.request? call = none ∧ ∀ s, (runCall c s call).2.2 = s) ∨
    ∃ r, ∃ report : Stack → Except Service.Fault Response → Report, c.request? call = some r ∧
      ∀ s, runCall c s call = (report s.stack (s.send r).2, c, (s.send r).1) := by
  by_cases h : call.isOperation = true
  case pos =>
    rcases c.runCall_cases h with ⟨_, _, hf, hr⟩ | ⟨_, _, _, r, report, hσ, hh, hd, hp, hr⟩
    case inl => exact .inl ⟨request?_of_refuses hf, fun s => by rw [hr]⟩
    case inr =>
      have hq := request?_of_draft? hσ hh hd
      rw [hp] at hq
      exact .inr ⟨r, report, hq, hr⟩
  case neg =>
    cases call <;> simp only [Call.isOperation, not_true_eq_false] at h
    case start => exact .inl ⟨request?_eq_none c fun _ _ _ _ => rfl, fun _ => rfl⟩
    case stop => exact .inl ⟨request?_eq_none c fun _ _ _ _ => rfl, fun _ => rfl⟩

end

end Client

namespace Bench

-- A request that is recorded of a call was made of what the call asks for.
theorem draft?_of_record {c : Client} {s : Service} {call : Call} {r : Request}
    (h : (runCall c s call).2.2.record = s.record ++ [r]) :
    ∃ σ headers d, c.settings = some σ ∧ call.draft? σ headers = some d ∧
      Request.prepare d = .ok r ∧ (runCall c s call).2.2 = (s.send r).1 := by
  rcases c.runCall_request call with ⟨_, hs⟩ | ⟨r', _, hr, hs⟩
  case inl => simp [hs] at h
  case inr =>
    rw [hs, Service.record_send, List.append_cancel_left_eq, List.cons.injEq] at h
    obtain ⟨rfl, _⟩ := h
    have ⟨σ, headers, d, hσ, _, hd, hp⟩ := Client.draft?_of_request? hr
    exact ⟨σ, headers, d, hσ, hd, hp, by rw [hs]⟩

end Bench

end DocStore
