import DocStore.Proofs.Client.Failures
import DocStore.Proofs.Headers

namespace DocStore

open Bench (Call reportOf runCall)

theorem Outcome.andThen_eq_error {α β : Type} {o : Outcome α}
    {next : α → Except Failure β × List LogLine} {failure : Failure}
    (h : (o.andThen next).result = .error failure) :
    o.result = .error failure ∨ ∃ a, (next a).1 = .error failure := by
  unfold andThen at h
  split at h
  case h_1 ho =>
    cases h
    exact .inl ho
  case h_2 a _ => exact .inr ⟨a, h⟩

theorem Response.kind?_of_content {stack : Stack} {text : String} {failure : Failure}
    (h : content stack text = .error failure) : failure.kind? ≠ some .transport := by
  unfold content at h
  repeat' split at h
  all_goals cases h
  case _ e _ => cases e <;> simp [Failure.ofReadError, Failure.kind?]

namespace Request

variable {headers : Headers} {fault : Headers.Fault}

theorem fault?_of_outgoing {address : Address}
    (h : outgoing headers.given address = .error (.header fault)) :
    headers.fault? = some fault := by
  rw [outgoing_given] at h
  split at h
  case h_1 hf =>
    cases h
    exact hf
  case h_2 =>
    split at h
    case h_1 => cases h
    case h_2 =>
      unfold authorize at h
      repeat' split at h
      all_goals cases h

-- A request that is rejected over a header was to be made with that header.
theorem fault?_of_prepare {method address : String} {parameters : List (String × String)}
    {body : Option String}
    (h : prepare (Client.draft method address parameters body headers) = .error (.header fault)) :
    headers.fault? = some fault := by
  cases prepared_iff.mpr h
  case outgoing _ _ ho => exact fault?_of_outgoing ho

end Request

namespace Client

variable {c : Client} {s : Service} {failure : Failure}

-- Where a failure of a client comes from: it is that of an exchange, or none of transport.
inductive Raises (c : Client) (s : Service) (failure : Failure) : Prop
  | exchange {method address : String} {parameters : List (String × String)}
    {body : Option String}
    (h : (c.exchange s method address parameters body).result = .error failure)
  | own (h : failure.kind? ≠ some .transport)

theorem raises_ask {query : String} (h : (c.ask s query).result = .error failure) :
    c.Raises s failure := by
  unfold ask at h
  split at h
  case h_1 =>
    cases h
    exact .own nofun
  case h_2 =>
    rcases Outcome.andThen_eq_error h with h | ⟨_, h⟩
    case inl => exact .exchange h
    case inr =>
      unfold interpret at h
      repeat' split at h
      all_goals cases h
      case _ hf => exact .own <| Response.kind?_of_content hf

theorem raises_change {m : Mutation} {o : Outcome Status} (ho : Change c s m o)
    (h : o.result = .error failure) : c.Raises s failure := by
  cases ho
  case notReady =>
    cases h
    exact .own nofun
  case badBytes =>
    cases h
    exact .own nofun
  case submitted =>
    rcases Outcome.andThen_eq_error h with h | ⟨_, h⟩
    case inl => exact .exchange h
    case inr => cases h

theorem raises_collect {α : Type} {query : String} (into : α) (deliver : Answer → Status × α)
    (h : (collect (c.ask s query) into deliver).1.result = .error failure) :
    c.Raises s failure := by
  unfold collect at h
  split at h
  case h_1 ho =>
    cases h
    exact raises_ask ho
  case h_2 => cases h

theorem failure?_reportOf {o : Outcome Status} {delivery : Bench.Delivery}
    (h : (reportOf o delivery).1.failure? = some failure) : o.result = .error failure := by
  unfold reportOf at h
  cases hr : o.result <;> rw [hr] at h <;> cases h
  rfl

theorem raises_runCall {call : Call} (h : (runCall c s call).1.failure? = some failure) :
    c.Raises s failure := by
  cases call
  case start =>
    have hc : c.start.2.1 = .error failure := by
      cases hr : c.start.2.1 <;> simp_all [runCall, Bench.Report.failure?, Except.map]
    unfold start at hc
    split at hc <;> cases hc
    exact .own fun h => by cases h
  case stop => cases h
  case read => exact raises_collect _ _ <| failure?_reportOf h
  case scan type start count fields into =>
    have h : (c.scan s type start count fields into).1.result = _ := failure?_reportOf h
    rw [scan_eq] at h
    split at h
    case h_1 fault _ =>
      cases h
      exact .own <| by cases fault <;> exact fun h => by cases h
    case h_2 => exact raises_collect _ _ h
  case insert => exact raises_change (c.insert_spec s ..) <| failure?_reportOf h
  case update => exact raises_change (c.post_spec s _) <| failure?_reportOf h
  case delete => exact raises_change (c.post_spec s _) <| failure?_reportOf h

-- If an operation fails over a header, the session of the client has that header.
theorem session_of_raises {method address : String} {fault : Headers.Fault}
    (h : c.Raises s (.transport method address (.rejected (.header fault)))) :
    ∃ headers, c.session = some headers ∧ headers.fault? = some fault := by
  cases h
  case own h => exact absurd rfl h
  case exchange method' address' parameters body h =>
    have he := exchange_spec c s method' address' parameters body
    revert he h
    generalize c.exchange s method' address' parameters body = o
    intro h he
    cases he
    case notReady => cases h
    case rejected headers fault' _ hc hp =>
      cases fault' <;> cases h
      exact ⟨headers, hc, Request.fault?_of_prepare hp⟩
    case failed fault' _ _ _ _ =>
      unfold Failure.ofFault at h
      repeat' split at h
      all_goals cases h
    case unlogged => cases h
    case received => cases h

end Client

end DocStore
