import DocStore.Proofs.Client.Lifecycle
import DocStore.Proofs.Client.Transport
import DocStore.Proofs.Tokens.Runs
import Mathlib.Logic.Equiv.Basic

namespace DocStore

open Bench (Call Report runCall reportOf)

namespace Headers

def bearer (token : String) : String :=
  "Bearer " ++ token

-- Headers that are the same but for the token that some may hold.
def Retokened (token token' : String) : Headers → Headers → Prop :=
  List.Forall₂ fun h h' => h' = h ∨ h.2 = bearer token ∧ h' = (h.1, bearer token')

variable {token token' : String} {headers headers' : Headers}

theorem Retokened.refl (headers : Headers) : Retokened token token' headers headers :=
  List.forall₂_same.mpr fun _ _ => .inl rfl

theorem Retokened.put (h : Retokened token token' headers headers') {name value value' : String}
    (hv : value' = value ∨ value = bearer token ∧ value' = bearer token') :
    Retokened token token' (put name value headers) (put name value' headers') := by
  have hh : (name, value') = (name, value) ∨
      value = bearer token ∧ (name, value') = (name, bearer token') := by
    simpa using hv
  induction h
  case nil => exact .cons hh .nil
  case cons e e' _ _ he hs hi =>
    have hn : e'.1 = e.1 := by rcases he with rfl | ⟨_, rfl⟩ <;> rfl
    rw [Headers.put, Headers.put, hn]
    split
    case isTrue => exact .cons hh hs
    case isFalse => exact .cons he hi

theorem Retokened.update (h : Retokened token token' headers headers') {σ σ' : Settings}
    (hσ : σ.token = token) (hσ' : σ'.token = token') :
    Retokened token token' (update headers σ.headers) (Headers.update headers' σ'.headers) := by
  rw [update_headers, update_headers]
  exact (h.put (.inl rfl)).put <| .inr ⟨by rw [hσ, bearer], by rw [hσ', bearer]⟩

-- The same is wrong with both, or the token is.
theorem Retokened.fault? (h : Retokened token token' headers headers')
    (ht : isValue (bearer token') = isValue (bearer token)) :
    fault? headers' = fault? headers ∨
      isValue (bearer token) = false ∧ fault? headers = some (.value (bearer token)) ∧
        fault? headers' = some (.value (bearer token')) := by
  induction h
  case nil => exact .inl rfl
  case cons e e' _ _ he _ hi =>
    unfold Headers.fault?
    rcases he with rfl | ⟨hv, rfl⟩
    case inl =>
      repeat' split
      case isTrue.isTrue => exact hi
      all_goals exact .inl rfl
    case inr =>
      rw [hv, ht]
      repeat' split
      case isTrue.isTrue => exact hi
      case isTrue.isFalse hn => exact .inr ⟨by simpa using hn, rfl, rfl⟩
      case isFalse => exact .inl rfl

end Headers

theorem renames_swap {token token' : String}
    (ht : Headers.isValue (Headers.bearer token') = Headers.isValue (Headers.bearer token)) :
    Renames (Equiv.swap token token') where
  injective := (Equiv.swap token token').injective
  isValue other := by
    unfold Headers.bearer at ht
    rw [Equiv.swap_apply_def]
    split
    case isTrue h => rw [h, ht]
    case isFalse =>
      split
      case isTrue h => rw [h, ht]
      case isFalse => rfl

-- Properties have a token, or none, which is the same as an empty one.
def Settings.HaveToken (properties : Entries String Json) (token : String) : Prop :=
  properties.get? Property.token.key = some (.text token) ∨
    properties.get? Property.token.key = none ∧ token = ""

theorem Settings.token_of_haveToken {properties : Entries String Json} {token : String}
    (h : HaveToken properties token) :
    issueOf properties .token = none ∧ textOf properties .token "" = token := by
  rcases h with h | ⟨h, rfl⟩
  · simp [issueOf, textOf, h, Property.check, checkText, JsonText.shown]
  · simp [issueOf, textOf, h]

theorem Settings.token_of_ofProperties {properties : Entries String Json} {token : String}
    (h : HaveToken properties token) {σ : Settings} (hσ : ofProperties properties = .ok σ) :
    σ.token = token := by
  unfold ofProperties at hσ
  split at hσ
  case h_1 =>
    cases hσ
    exact (token_of_haveToken h).right
  case h_2 => cases hσ

namespace Client

-- New clients whose properties differ in the token and in no other that is known.
structure Differ (token token' : String) (new new' : Client) : Prop where
  settings  : new.settings = none
  settings' : new'.settings = none
  session   : new'.session = new.session
  others    : ∀ p : Settings.Property, p ≠ .token →
    Entries.get? new'.properties p.key = Entries.get? new.properties p.key
  token     : Settings.HaveToken new.properties token
  token'    : Settings.HaveToken new'.properties token'

def afterCalls (c : Client) (calls : List Call) : Client :=
  calls.foldl afterCall c

-- Clients that differ in their tokens, at the same point of their lives.
structure Twins (token token' : String) (c c' : Client) : Prop where
  renamed : c.Renamed (Equiv.swap token token') c'
  session : Option.Rel (Headers.Retokened token token') c.session c'.session
  token   : Settings.HaveToken c.properties token

variable {token token' : String} {c c' new new' : Client}

theorem Differ.retokened (h : Differ token token' new new') :
    Settings.Retokened (Equiv.swap token token') new.properties new'.properties where
  others := h.others
  issue := by
    rw [(Settings.token_of_haveToken h.token).left, (Settings.token_of_haveToken h.token').left]
  token _ := by
    rw [(Settings.token_of_haveToken h.token).right, (Settings.token_of_haveToken h.token').right,
      Equiv.swap_apply_left]

theorem Differ.twins (h : Differ token token' new new') : Twins token token' new new' where
  renamed := renamed_new h.settings h.settings' h.session h.retokened
  session := by
    rw [h.session]
    cases new.session
    case none => exact .none
    case some headers => exact .some <| .refl headers
  token := h.token

section

variable (ht : Headers.isValue (Headers.bearer token') = Headers.isValue (Headers.bearer token))
include ht

theorem Twins.start (h : Twins token token' c c') : Twins token token' c.start.1 c'.start.1 := by
  have hr := (h.renamed.start <| renames_swap ht).left
  have hp' := h.renamed.properties
  cases hp : Settings.ofProperties c.properties <;> rw [hp] at hp'
  case error =>
    rw [start_of_error hp, start_of_error hp']
    exact h
  case ok σ =>
    rw [start_of_ok hp, start_of_ok hp'] at hr ⊢
    have hσ := Settings.token_of_ofProperties h.token hp
    have hσ' : (σ.rename (Equiv.swap token token')).token = token' := by
      rw [Settings.rename, hσ, Equiv.swap_apply_left]
    refine ⟨hr, .some <| Headers.Retokened.update ?_ hσ hσ', h.token⟩
    have hs := h.session
    cases hc : c.session <;> cases hc' : c'.session <;> rw [hc, hc'] at hs <;> cases hs
    case none.none => exact .refl Headers.standard
    case some.some hs => exact hs

theorem Twins.afterCall (h : Twins token token' c c') (call : Call) :
    Twins token token' (c.afterCall call) (c'.afterCall call) := by
  cases call
  case start => exact h.start ht
  case stop => exact ⟨h.renamed.stop, .none, h.token⟩
  all_goals exact h

theorem Twins.afterCalls (h : Twins token token' c c') (calls : List Call) :
    Twins token token' (c.afterCalls calls) (c'.afterCalls calls) := by
  unfold Client.afterCalls
  induction calls generalizing c c'
  case nil => exact h
  case cons call _ hi => exact hi <| h.afterCall ht call

end

end Client

namespace Failure

def ofToken (method address token : String) : Failure :=
  .transport method address (.rejected (.header (.value (Headers.bearer token))))

theorem message?_ofToken (method address token : String) :
    (ofToken method address token).message? =
      some (method ++ " " ++ address ++ " failed: " ++
        Headers.unfitMessage "value" (Headers.bearer token)) :=
  rfl

theorem masked_cases (failure : Failure) :
    failure.masked = failure ∨ ∃ method address fault,
      failure = .transport method address (.rejected (.header fault)) := by
  cases failure
  case transport method address cause =>
    cases cause
    case rejected fault =>
      cases fault
      case header fault => exact .inr ⟨method, address, fault, rfl⟩
      all_goals exact .inl rfl
    case broken => exact .inl rfl
  all_goals exact .inl rfl

-- A mask hides nothing but what is said about a header.
theorem eq_of_masked {failure failure' : Failure} (h : failure'.masked = failure.masked) :
    failure' = failure ∨ ∃ method address fault fault',
      failure = .transport method address (.rejected (.header fault)) ∧
        failure' = .transport method address (.rejected (.header fault')) := by
  rcases failure.masked_cases with hm | ⟨method, address, fault, rfl⟩ <;>
    rcases failure'.masked_cases with hm' | ⟨method', address', fault', rfl⟩
  case inl.inl => exact .inl <| hm'.symm.trans <| h.trans hm
  case inl.inr => exact .inr ⟨method', address', _, fault', (h.trans hm).symm, rfl⟩
  case inr.inl => exact .inr ⟨method, address, fault, _, rfl, hm'.symm.trans h⟩
  case inr.inr =>
    obtain ⟨rfl, rfl, _⟩ : method' = method ∧ address' = address ∧ _ := by simpa [masked] using h
    exact .inr ⟨method', address', fault, fault', rfl, rfl⟩

end Failure

namespace Bench

theorem Report.failure?_masked (report : Report) :
    report.masked.failure? = report.failure?.map Failure.masked := by
  cases report
  case call result _ _ => cases result <;> rfl
  all_goals rfl

variable {token token' : String} {c c' : Client} {s s' : Service}

section

variable (ht : Headers.isValue (Headers.bearer token') = Headers.isValue (Headers.bearer token))
  (hc : c.Twins token token' c') (hs : s.Renamed (Equiv.swap token token') s') (call : Call)
include ht hc hs

theorem masked_failure?_twins :
    (runCall c' s' call).1.failure?.map Failure.masked =
      (runCall c s call).1.failure?.map Failure.masked := by
  have hr := (runCall_renamed (renames_swap ht) hc.renamed hs call).left
  rw [← Report.failure?_masked, hr, Report.failure?_masked]

-- What the mask hides is the token, if anything.
theorem failure_twins {failure failure' : Failure}
    (hf : (runCall c s call).1.failure? = some failure)
    (hf' : (runCall c' s' call).1.failure? = some failure') :
    failure' = failure ∨ Headers.isValue (Headers.bearer token) = false ∧ ∃ method address,
      failure = .ofToken method address token ∧ failure' = .ofToken method address token' := by
  have hm := masked_failure?_twins ht hc hs call
  rw [hf, hf', Option.map_some, Option.map_some, Option.some.injEq] at hm
  rcases Failure.eq_of_masked hm with he | ⟨method, address, fault, fault', rfl, rfl⟩
  case inl => exact .inl he
  case inr =>
    have ⟨headers, hh, hv⟩ := Client.session_of_raises <| Client.raises_runCall hf
    have ⟨headers', hh', hv'⟩ := Client.session_of_raises <| Client.raises_runCall hf'
    have ha := hc.session
    rw [hh, hh'] at ha
    cases ha
    case some ha =>
      rcases ha.fault? ht with he | ⟨hn, he, he'⟩
      case inl =>
        rw [hv, hv', Option.some.injEq] at he
        exact .inl <| by rw [he]
      case inr =>
        rw [hv, Option.some.injEq] at he
        rw [hv', Option.some.injEq] at he'
        exact .inr ⟨hn, method, address, by rw [he, Failure.ofToken], by rw [he', Failure.ofToken]⟩

end

theorem renamed_of_token_none (hs : s.Renamed id s') (hn : s.token = none) (ρ : String → String) :
    s.Renamed ρ s' where
  token := by rw [hs.token, hn, Option.map_none, Option.map_none]
  stack := hs.stack
  record := hs.record
  queue := hs.queue
  documents := hs.documents

-- Two clients that differ in their tokens alone, of which both can be sent or neither can, after
-- the same calls. On services that are the same and ask for no token, each call fails for both or
-- for neither, with failures of one kind. If the tokens can be sent, the failures are the same in
-- all that they say. If they cannot, the failures are the same as well, save that a failure over
-- the header with the token quotes it.
theorem failures_tell_token
    (ht : Headers.isValue (Headers.bearer token') = Headers.isValue (Headers.bearer token))
    {new new' : Client} (hd : Client.Differ token token' new new') (calls : List Call)
    (hs : s.Renamed id s') (hn : s.token = none) (call : Call) :
    ((runCall (new'.afterCalls calls) s' call).1.failure?.isSome =
      (runCall (new.afterCalls calls) s call).1.failure?.isSome) ∧
    ∀ failure failure', (runCall (new.afterCalls calls) s call).1.failure? = some failure →
      (runCall (new'.afterCalls calls) s' call).1.failure? = some failure' →
        failure'.kind? = failure.kind? ∧
        (Headers.isValue (Headers.bearer token) = true → failure' = failure) ∧
        (failure' = failure ∨ ∃ method address,
          failure.message? = some (method ++ " " ++ address ++ " failed: " ++
            Headers.unfitMessage "value" (Headers.bearer token)) ∧
          failure'.message? = some (method ++ " " ++ address ++ " failed: " ++
            Headers.unfitMessage "value" (Headers.bearer token'))) := by
  have hc := hd.twins.afterCalls ht calls
  have hs := renamed_of_token_none hs hn (Equiv.swap token token')
  refine ⟨?_, fun failure failure' hf hf' => ?_⟩
  · simpa using congrArg Option.isSome <| masked_failure?_twins ht hc hs call
  · rcases failure_twins ht hc hs call hf hf' with rfl | ⟨hv, method, address, rfl, rfl⟩
    case inl => exact ⟨rfl, fun _ => rfl, .inl rfl⟩
    case inr =>
      have hm := Failure.message?_ofToken method address
      exact ⟨rfl, by simp [hv], .inr ⟨method, address, hm token, hm token'⟩⟩

def keeper (token : String) : Client where
  properties := [("sanity.dataset", .text "main"), ("sanity.api.auth_token", .text token)]

theorem differ_keeper (token token' : String) :
    Client.Differ token token' (keeper token) (keeper token') where
  settings := rfl
  settings' := rfl
  session := rfl
  others p hp := by
    cases p
    case token => exact absurd rfl hp
    all_goals rfl
  token := .inl rfl
  token' := .inl rfl

def slow : Service where
  queue := [.failure ⟨.timeout, "slow"⟩]

theorem failures_tell_token_keeper :
    Headers.isValue (Headers.bearer "y") = Headers.isValue (Headers.bearer "x") ∧
    Client.Differ "x" "y" (keeper "x") (keeper "y") ∧
    slow.Renamed id slow ∧ slow.token = none ∧
    (runCall ((keeper "y").afterCalls [.start, .stop, .start]) slow (.delete "t" "k")).1.failure? =
      some (.transport "POST" "https://api.sanity.io/vX/mutate/main"
        (.broken ⟨.timeout, "slow"⟩)) := by
  have ht : Headers.isValue (Headers.bearer "y") = Headers.isValue (Headers.bearer "x") := by
    decide +kernel
  have hs : slow.Renamed id slow := ⟨rfl, rfl, .nil, rfl, rfl⟩
  have hf : (runCall ((keeper "x").afterCalls [.start, .stop, .start]) slow
      (.delete "t" "k")).1.failure? =
        some (.transport "POST" "https://api.sanity.io/vX/mutate/main"
          (.broken ⟨.timeout, "slow"⟩)) := by
    decide +kernel
  have ⟨hi, hr⟩ := failures_tell_token ht (differ_keeper "x" "y") [.start, .stop, .start] hs rfl
    (.delete "t" "k")
  rw [hf] at hi
  have ⟨failure', hf'⟩ := Option.isSome_iff_exists.mp hi
  have ⟨_, he, _⟩ := hr _ failure' hf hf'
  rw [he (by decide +kernel)] at hf'
  exact ⟨ht, differ_keeper "x" "y", hs, rfl, hf'⟩

-- Tokens that cannot be sent are told to whoever handles the failure.
theorem read_quotes_token :
    Headers.isValue (Headers.bearer "b\n") = Headers.isValue (Headers.bearer "a\n") ∧
    Client.Differ "a\n" "b\n" (keeper "a\n") (keeper "b\n") ∧
    (runCall ((keeper "a\n").afterCalls [.start]) {}
        (.read "t" "k" none [])).1.failure?.bind Failure.message? =
      some ("GET https://api.sanity.io/vX/query/main failed: Invalid leading whitespace, " ++
        "reserved character(s), or return character(s) in header value: 'Bearer a\\n'") ∧
    (runCall ((keeper "b\n").afterCalls [.start]) {}
        (.read "t" "k" none [])).1.failure?.bind Failure.message? =
      some ("GET https://api.sanity.io/vX/query/main failed: Invalid leading whitespace, " ++
        "reserved character(s), or return character(s) in header value: 'Bearer b\\n'") :=
  ⟨by decide +kernel, differ_keeper "a\n" "b\n", by decide +kernel, by decide +kernel⟩

end Bench

end DocStore
