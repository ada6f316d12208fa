import DocStore.Proofs.Client.Operations
import DocStore.Proofs.Headers
import DocStore.Proofs.Query.RoundTrip
import Mathlib.Data.List.Induction

namespace DocStore

open Bench (Call Step Report)

-- Bytes in a field are the UTF-8 of a text.
def FieldInput.IsReadable : FieldInput → Prop
  | .bytes value => ∃ text, value = Utf8.encode text
  | _ => True

theorem FieldInput.toText_of_isReadable {value : FieldInput} (h : value.IsReadable) :
    ∃ t, value.toText = .ok t := by
  cases value
  case text t => exact ⟨t, rfl⟩
  case bytes value =>
    have ⟨s, he⟩ := h
    exact ⟨.plain (.ofList s), by rw [he, toText, Utf8.decode_encode]; rfl⟩
  case other v _ => exact ⟨v.display, rfl⟩

namespace Edit

theorem texts_of_readable {values : List (String × FieldInput)}
    (h : ∀ e ∈ values, e.2.IsReadable) : ∃ fields, texts values = .ok fields := by
  induction values
  case nil => exact ⟨[], rfl⟩
  case cons e values hi =>
    rw [List.forall_mem_cons] at h
    have ⟨t, ht⟩ := FieldInput.toText_of_isReadable h.left
    have ⟨fields, hf⟩ := hi h.right
    exact ⟨(e.1, t.paired) :: fields, by simp [texts, ht, hf, Except.map]⟩

theorem body_of_readable {m : Edit} (h : ∀ e ∈ m.values, e.2.IsReadable) :
    ∃ body, m.mutation.body = .ok body := by
  have ⟨fields, hf⟩ := texts_of_readable h
  rcases m.payload_cases with ⟨e, he, _⟩ | ⟨_, payload, _, hp, _⟩
  case inl => cases he.symm.trans hf
  case inr => exact ⟨_, by rw [Mutation.body, hp]; rfl⟩

end Edit

namespace Bench

-- Counts are not negative and can be written, and bytes are texts.
def Call.IsAccepted : Call → Prop
  | .scan _ _ count _ _ => 0 ≤ count ∧ Text.isOverlong count = false
  | .insert _ _ values => ∀ e ∈ values, e.2.IsReadable
  | .update _ _ values => ∀ e ∈ values, e.2.IsReadable
  | _ => True

def Call.address (σ : Settings) (call : Call) : String :=
  if call.isQuery then σ.queryAddress else σ.mutateAddress

section

variable {call : Call} (σ : Settings) (headers : Headers)

theorem draft?_of_isAccepted (ho : call.isOperation = true) (ha : call.IsAccepted) :
    ∃ d, call.draft? σ headers = some d := by
  have hm (m : Edit) (h : ∀ e ∈ m.values, e.2.IsReadable) (draft : String → Request.Draft) :
      ∃ d, m.mutation.body.toOption.map draft = some d := by
    have ⟨body, hb⟩ := Edit.body_of_readable h
    exact ⟨draft body, by rw [hb]; rfl⟩
  cases call
  case start => cases ho
  case stop => cases ho
  case read => exact ⟨_, rfl⟩
  case scan type start count fields into =>
    rcases Selection.rangeText_cases type start count (fields.getD []) with
      ⟨hn, _⟩ | ⟨_, hn, _⟩ | ⟨_, _, rfl, _, _, ht⟩
    case inl => cases hn.symm.trans ha.right
    case inr.inl => exact absurd ha.left (Int.not_le.mpr hn)
    case inr.inr => exact ⟨_, by rw [Call.draft?, ht]; rfl⟩
  case insert type id values => exact hm ⟨σ.insertKind, type, id, values⟩ ha _
  case update type id values => exact hm ⟨.patch, type, id, values⟩ ha _
  case delete type id =>
    rw [Call.draft?]
    exact hm ⟨.delete, type, id, []⟩ (by simp) _

variable {σ headers}

theorem eq_of_draft? {d : Request.Draft} (h : call.draft? σ headers = some d) :
    d.address = call.address σ ∧ d.headers = headers.given := by
  cases call
  case start => cases h
  case stop => cases h
  case read =>
    cases h
    exact ⟨rfl, rfl⟩
  all_goals
    rw [Call.draft?] at h
    obtain ⟨_, _, rfl⟩ := Option.map_eq_some_iff.mp h
    exact ⟨rfl, rfl⟩

end

end Bench

namespace Bench

-- A client counts as started if it was, and was not stopped since.
def IsStarted (name : String) (steps : List Step) : Prop :=
  ∃ before since, steps = before ++ .call name .start :: since ∧ .call name .stop ∉ since

variable {name : String} {steps : List Step}

theorem not_isStarted_nil : ¬IsStarted name [] := by
  rintro ⟨before, since, h, _⟩
  simp at h

theorem isStarted_start : IsStarted name (steps ++ [.call name .start]) :=
  ⟨steps, [], rfl, by simp⟩

-- The last step of a run is a start, or comes after one.
theorem isStarted_append_iff {step : Step} (h : step ≠ .call name .start) :
    IsStarted name (steps ++ [step]) ↔ IsStarted name steps ∧ step ≠ .call name .stop where
  mp := by
    rintro ⟨before, since, hs, hn⟩
    rcases since.eq_nil_or_concat with rfl | ⟨since, last, rfl⟩
    case inl =>
      have ⟨_, he⟩ := List.append_inj' hs rfl
      exact absurd (List.singleton_inj.mp he) h
    case inr =>
      rw [List.concat_eq_append, ← List.cons_append, ← List.append_assoc] at hs
      obtain ⟨hb, he⟩ := List.append_inj' hs rfl
      cases he
      rw [List.concat_eq_append, List.mem_append, List.mem_singleton, not_or] at hn
      exact ⟨⟨before, since, hb, hn.left⟩, Ne.symm hn.right⟩
  mpr := by
    rintro ⟨⟨before, since, hs, hn⟩, he⟩
    refine ⟨before, since ++ [step], by simp [hs], ?_⟩
    rw [List.mem_append, List.mem_singleton, not_or]
    exact ⟨hn, Ne.symm he⟩

end Bench

namespace Client

open Bench (IsStarted)

def afterCall (c : Client) : Call → Client
  | .start => c.start.1
  | .stop => c.stop
  | _ => c

def afterStep (name : String) (c : Client) : Step → Client
  | .call other call => if other = name then c.afterCall call else c
  | _ => c

-- A client that some steps have made of a new one. Settings and headers belong together, however
-- they came about.
structure Lives (name : String) (new : Client) (steps : List Step) (c : Client) : Prop where
  properties : c.properties = new.properties
  settings   : ∀ σ, c.settings = some σ → Settings.ofProperties new.properties = .ok σ
  isOwn      : c.IsOwn
  ready      : IsStarted name steps → ∀ σ, Settings.ofProperties new.properties = .ok σ →
    c.settings = some σ ∧ ∃ headers, c.session = some headers
  idle       : ¬IsStarted name steps → c.settings = none ∨ c.session = none

namespace Lives

variable {name : String} {new c : Client} {steps : List Step}

theorem nil (h : new.settings = none) : Lives name new [] new where
  properties := rfl
  settings := by simp [h]
  isOwn := isOwn_of_settings_none h
  ready hs := absurd hs Bench.not_isStarted_nil
  idle _ := .inl h

theorem start (h : Lives name new steps c) :
    Lives name new (steps ++ [.call name .start]) c.start.1 := by
  have ho := h.isOwn.start
  cases hp : Settings.ofProperties new.properties
  case error =>
    rw [start_of_error (h.properties ▸ hp)] at ho ⊢
    refine ⟨h.properties, h.settings, ho, ?_, fun hn => absurd Bench.isStarted_start hn⟩
    rintro _ _ hσ
    cases hp.symm.trans hσ
  case ok σ =>
    rw [start_of_ok (h.properties ▸ hp)] at ho ⊢
    refine ⟨h.properties, ?_, ho, ?_, fun hn => absurd Bench.isStarted_start hn⟩
    · rintro _ ⟨⟩
      exact hp
    · rintro _ _ hσ
      cases hp.symm.trans hσ
      exact ⟨rfl, _, rfl⟩

theorem stop (h : Lives name new steps c) :
    Lives name new (steps ++ [.call name .stop]) c.stop where
  properties := h.properties
  settings := h.settings
  isOwn := IsOwn.stop c
  ready hs := absurd rfl ((Bench.isStarted_append_iff (by simp)).mp hs).right
  idle _ := .inr rfl

-- No other step has a say in what a client is.
theorem frame (h : Lives name new steps c) {step : Step} (hs : step ≠ .call name .start)
    (hp : step ≠ .call name .stop) : Lives name new (steps ++ [step]) c where
  properties := h.properties
  settings := h.settings
  isOwn := h.isOwn
  ready ha := h.ready ((Bench.isStarted_append_iff hs).mp ha).left
  idle hn := h.idle fun ha => hn <| (Bench.isStarted_append_iff hs).mpr ⟨ha, hp⟩

theorem step (h : Lives name new steps c) (step : Step) :
    Lives name new (steps ++ [step]) (c.afterStep name step) := by
  cases step
  case call other call =>
    by_cases hn : other = name
    case pos =>
      subst hn
      cases call <;> simp only [afterStep, afterCall, if_true]
      case start => exact h.start
      case stop => exact h.stop
      all_goals exact h.frame (by simp) (by simp)
    case neg =>
      simp only [afterStep, hn, if_false]
      exact h.frame (by simp [hn]) (by simp [hn])
  all_goals exact h.frame (by simp) (by simp)

theorem run (h : new.settings = none) (steps : List Step) :
    Lives name new steps (steps.foldl (afterStep name) new) := by
  induction steps using List.reverseRecOn
  case nil => exact nil h
  case append_singleton steps step hi =>
    rw [List.foldl_append]
    exact hi.step step

end Lives

end Client

namespace Bench

theorem client_runCall (c : Client) (s : Service) (call : Call) :
    (runCall c s call).2.1 = c.afterCall call := by
  cases call <;> rfl

variable {name : String}

theorem client_step (b : Bench) {step : Step} (h : ∀ other, step ≠ .enter name other) :
    (b.step step).2.clients.get? name =
      (b.clients.get? name).map fun c => c.afterStep name step := by
  cases step
  case enter other new =>
    have hn : name ≠ other := by
      rintro rfl
      exact h new rfl
    simp [Bench.step, Entries.get?_put_of_ne _ _ hn, Client.afterStep]
  case call other call =>
    cases hc : b.clients.get? other
    case none =>
      by_cases hn : other = name
      case pos => simp [Bench.step, hc, ← hn]
      case neg => simp [Bench.step, hc, Client.afterStep, hn]
    case some c =>
      by_cases hn : other = name
      case pos =>
        subst hn
        simp [Bench.step, hc, Entries.get?_put_self, client_runCall, Client.afterStep]
      case neg =>
        simp [Bench.step, hc, Entries.get?_put_of_ne _ _ (Ne.symm hn), Client.afterStep, hn]
  all_goals simp [Bench.step, Client.afterStep]

theorem client_run (b : Bench) {steps : List Step} (h : ∀ other, .enter name other ∉ steps) :
    (b.run steps).2.clients.get? name =
      (b.clients.get? name).map fun c => steps.foldl (Client.afterStep name) c := by
  induction steps generalizing b
  case nil => simp [run]
  case cons step steps hi =>
    have hs := b.client_step fun other he => h other <| he ▸ List.mem_cons_self
    have hr := hi (b.step step).2 fun other hm => h other <| List.mem_cons_of_mem _ hm
    rw [hs, Option.map_map] at hr
    exact hr

theorem client_enter (b : Bench) {new : Client} (hn : new.settings = none) {steps : List Step}
    (h : ∀ other, .enter name other ∉ steps) :
    ∃ c, ((b.step (.enter name new)).2.run steps).2.clients.get? name = some c ∧
      Client.Lives name new steps c := by
  refine ⟨_, ?_, .run hn steps⟩
  rw [client_run _ h, Bench.step, Entries.get?_put_self, Option.map_some]

end Bench

theorem Authority.credentials?_eq_none {authority : List Char} (h : '@' ∉ authority) :
    credentials? authority = none := by
  have hd : authority.reverse.dropWhile (· != '@') = [] := by
    rw [List.dropWhile_eq_nil_iff]
    intro c hc
    simpa using ne_of_mem_of_not_mem (List.mem_reverse.mp hc) h
  simp [credentials?, splitUserInfo, hd]

-- A request to an address with the headers of some settings. Only a user in the address can take
-- the place of the token.
structure Request.Belongs (r : Request) (σ : Settings) (address : String) : Prop where
  url           : ∃ parameters, Address.ofText address parameters = .ok (.url r.url)
  contentType   : r.contentType = some "application/json"
  authorization : '@' ∉ r.url.authority → r.authorization = some ("Bearer " ++ σ.token)

namespace Client

variable {σ : Settings} {headers : Headers} {call : Call} {d : Request.Draft} {r : Request}

theorem belongs_of_prepare (hc : headers.Carry σ) (hd : call.draft? σ headers = some d)
    (hp : Request.prepare d = .ok r) : r.Belongs σ (call.address σ) := by
  have ⟨ha, hh⟩ := Bench.eq_of_draft? hd
  have hs := Request.authorize_of_prepare hh hp
  refine ⟨⟨d.parameters, ha ▸ (Request.prepare_eq_ok hp).left⟩, ?_, ?_⟩
  · rcases Request.authorize_eq_ok hs with ⟨_, he⟩ | ⟨_, he⟩
    case inl => rw [Request.contentType, he, hc.contentType]
    case inr => rw [Request.contentType, he, Headers.find?_put_authorization, hc.contentType]
  · intro hu
    rw [Request.authorize, Authority.credentials?_eq_none hu] at hs
    cases hs
    exact hc.authorization

theorem service_of_prepare {c : Client} (hσ : c.settings = some σ) (hh : c.session = some headers)
    (hd : call.draft? σ headers = some d) (hp : Request.prepare d = .ok r) (s : Service) :
    (Bench.runCall c s call).2.2 = (s.send r).1 := by
  have hq := request?_of_draft? hσ hh hd
  rw [hp] at hq
  rcases c.runCall_request call with ⟨hn, _⟩ | ⟨r', _, hr, hs⟩
  case inl => cases hn.symm.trans hq
  case inr =>
    cases hr.symm.trans hq
    rw [hs]

theorem runCall_of_idle {c : Client} (ho : call.isOperation = true)
    (h : c.settings = none ∨ c.session = none) :
    ∃ failure log, call.FailsWith failure ∧
      ∀ s, Bench.runCall c s call = (.call (.error failure) log call.untouched, c, s) := by
  rcases c.runCall_cases ho with ⟨failure, log, hf, hr⟩ | ⟨_, _, _, _, _, hσ, hh, _⟩
  case inl =>
    refine ⟨failure, log, ?_, hr⟩
    cases hf
    case unasked hk => exact hk
    case rejected hσ hh _ _ => simp [hσ, hh] at h
  case inr => simp [hσ, hh] at h

theorem Lives.isIdle {name : String} {new c : Client} {steps : List Step}
    (hl : Lives name new steps c)
    (h : ∀ σ, Settings.ofProperties new.properties = .ok σ → ¬Bench.IsStarted name steps) :
    c.settings = none ∨ c.session = none := by
  cases hσ : c.settings
  case none => exact .inl rfl
  case some σ => exact hσ ▸ hl.idle <| h σ <| hl.settings σ hσ

end Client

namespace Bench

-- An operation of a client that was put on a bench. Where it was started with good properties and
-- not stopped since, each request that can be made of accepted arguments is recorded; else the
-- operation raises a database error, unless its count cannot be written, and nothing reaches the
-- service. In any case no request is
-- recorded but one that belongs to the settings of the client itself.
theorem run_operation (b b' : Bench) (name : String) (new : Client) (steps : List Step)
    (call : Call) (hn : new.settings = none) (he : ∀ other, .enter name other ∉ steps)
    (hb : (b.run (.enter name new :: steps)).2 = b') (ho : call.isOperation = true) :
    (∀ σ, Settings.ofProperties new.properties = .ok σ → IsStarted name steps →
      ∃ c headers, b'.clients.get? name = some c ∧ c.settings = some σ ∧
        c.session = some headers ∧
        (call.IsAccepted → ∃ d, call.draft? σ headers = some d ∧
          ∀ r, Request.prepare d = .ok r →
            (b'.step (.call name call)).2.service.record = b'.service.record ++ [r])) ∧
    ((∀ σ, Settings.ofProperties new.properties = .ok σ → ¬IsStarted name steps) →
      (b'.step (.call name call)).2.service = b'.service ∧
      ∃ failure log,
        (b'.step (.call name call)).1 = .call (.error failure) log call.untouched ∧
        ((∃ kind, failure.kind? = some kind ∧ kind.isA .database = true) ∨
          ¬call.IsWritable ∧ failure = .badCount .overlong)) ∧
    ((b'.step (.call name call)).2.service = b'.service ∨
      ∃ σ r, Settings.ofProperties new.properties = .ok σ ∧
        (b'.step (.call name call)).2.service.record = b'.service.record ++ [r] ∧
        r.Belongs σ (call.address σ)) := by
  obtain ⟨c, hc, hl⟩ := b.client_enter hn he
  have hc : b'.clients.get? name = some c := hb ▸ hc
  have hs : (b'.step (.call name call)).1 = (runCall c b'.service call).1 ∧
      (b'.step (.call name call)).2.service = (runCall c b'.service call).2.2 := by
    simp [step, hc]
  rw [hs.left, hs.right]
  refine ⟨fun σ hp ha => ?ready, fun hi => ?idle, ?own⟩
  case ready =>
    have ⟨hσ, headers, hh⟩ := hl.ready ha σ hp
    refine ⟨c, headers, hc, hσ, hh, fun hi => ?_⟩
    have ⟨d, hd⟩ := draft?_of_isAccepted σ headers ho hi
    refine ⟨d, hd, fun r hr => ?_⟩
    rw [Client.service_of_prepare hσ hh hd hr, Service.record_send]
  case idle =>
    have ⟨failure, log, hk, hr⟩ := Client.runCall_of_idle ho <| hl.isIdle hi
    rw [hr]
    refine ⟨rfl, failure, log, rfl, hk.imp_left fun hk => ?_⟩
    have ⟨kind, hk⟩ := Option.isSome_iff_exists.mp hk
    exact ⟨kind, hk, rfl⟩
  case own =>
    rcases c.runCall_cases ho with ⟨_, _, _, hr⟩ | ⟨σ, headers, d, r, _, hσ, hh, hd, hp, hr⟩
    case inl => exact .inl <| by rw [hr]
    case inr =>
      refine .inr ⟨σ, r, hl.settings σ hσ, ?_, ?_⟩
      · rw [hr, Service.record_send]
      · exact Client.belongs_of_prepare (hl.isOwn σ headers hσ hh) hd hp

def owner : Client where
  properties := [("sanity.dataset", .text "main"), ("sanity.api.auth_token", .text "secret")]
  session    := some [("authorization", "none")]

def restart : List Step :=
  [.call "a" .start, .enter "b" { properties := [] }, .call "b" .start, .call "a" .stop,
   .call "b" (.delete "t" "k"), .call "a" .start, .enqueue (.failure ⟨.timeout, "slow"⟩)]

def restarted : Bench :=
  (run {} (.enter "a" owner :: restart)).2

theorem run_operation_restart :
    (∀ other, .enter "a" other ∉ restart) ∧
    restarted.service.record.map Request.authorization = [some "Bearer "] ∧
    (restarted.step (.call "a" (.read "t" "k" none []))).2.service.record.map
      Request.authorization = [some "Bearer ", some "Bearer secret"] ∧
    ∃ σ r, Settings.ofProperties owner.properties = .ok σ ∧
      (restarted.step (.call "a" (.read "t" "k" none []))).2.service.record =
        restarted.service.record ++ [r] ∧
      r.Belongs σ σ.queryAddress := by
  have he : ∀ other, .enter "a" other ∉ restart := by simp [restart]
  have ⟨hb, ha⟩ : restarted.service.record.map Request.authorization = [some "Bearer "] ∧
      (restarted.step (.call "a" (.read "t" "k" none []))).2.service.record.map
        Request.authorization = [some "Bearer ", some "Bearer secret"] := by decide +kernel
  have ⟨_, _, ho⟩ :=
    run_operation {} restarted "a" owner restart (.read "t" "k" none []) rfl he rfl rfl
  refine ⟨he, hb, ha, ho.resolve_left fun hs => ?_⟩
  rw [hs, hb] at ha
  cases ha

end Bench

end DocStore
