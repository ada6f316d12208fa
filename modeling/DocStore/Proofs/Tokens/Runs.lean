import DocStore.Proofs.Client.Operations
import DocStore.Proofs.Tokens.Requests

namespace DocStore

open Bench (Call Report Step Delivery runCall reportOf)

variable {ρ : String → String}

namespace Settings

-- Properties that give another token and are the same otherwise. If something is wrong with the
-- token, the same is wrong with both.
structure Retokened (ρ : String → String) (properties properties' : Entries String Json) :
    Prop where
  others : ∀ p : Property, p ≠ .token →
    Entries.get? properties' p.key = Entries.get? properties p.key
  issue  : issueOf properties' .token = issueOf properties .token
  token  : issueOf properties .token = none →
    textOf properties' .token "" = ρ (textOf properties .token "")

variable {properties properties' : Entries String Json}
  (h : Retokened ρ properties properties')
include h

theorem issues_retokened : issues properties' = issues properties := by
  apply List.filterMap_congr
  intro p _
  by_cases hp : p = .token
  case pos => exact hp ▸ h.issue
  case neg => rw [issueOf, h.others p hp, issueOf]

theorem textOf?_retokened {p : Property} (hp : p ≠ .token) :
    textOf? properties' p = textOf? properties p := by
  rw [textOf?, h.others p hp, textOf?]

theorem textOf_retokened {p : Property} (hp : p ≠ .token) (default : String) :
    textOf properties' p default = textOf properties p default := by
  rw [textOf, h.others p hp, textOf]

theorem assemble_retokened (hi : issueOf properties .token = none) :
    assemble properties' = (assemble properties).rename ρ := by
  have ht? {p : Property} (hp : p ≠ .token) := textOf?_retokened h hp
  have ht {p : Property} (hp : p ≠ .token) := textOf_retokened h hp
  simp only [assemble, visibilityOf, insertModeOf, rename, ht?, ht, ne_eq, reduceCtorEq,
    not_false_eq_true]
  exact congrArg (fun token => ({ assemble properties with token } : Settings)) <| h.token hi

theorem ofProperties_retokened :
    ofProperties properties' = (ofProperties properties).map (rename ρ) := by
  rw [ofProperties, ofProperties, issues_retokened h]
  split
  case h_1 hn =>
    have hi := List.filterMap_eq_nil_iff.mp hn .token (by decide)
    rw [assemble_retokened h hi]
    rfl
  case h_2 => rfl

end Settings

theorem Headers.alike_getD {headers? headers?' : Option Headers}
    (h : Option.Rel Alike headers? headers?') (default : Headers) :
    (headers?.getD default).Alike (headers?'.getD default) := by
  cases h
  case some h => exact h
  case none => exact .refl default

namespace Client

structure Renamed (ρ : String → String) (c c' : Client) : Prop where
  properties : Settings.ofProperties c'.properties =
    (Settings.ofProperties c.properties).map (Settings.rename ρ)
  settings   : c'.settings = c.settings.map (Settings.rename ρ)
  session    : Option.Rel Headers.Alike c.session c'.session
  isOwn      : c.IsOwn
  isOwn'     : c'.IsOwn

variable {c c' : Client}

theorem renamed_new (hc : c.settings = none) (hc' : c'.settings = none)
    (hs : c'.session = c.session)
    (hp : Settings.Retokened ρ c.properties c'.properties) : c.Renamed ρ c' where
  properties := Settings.ofProperties_retokened hp
  settings := by rw [hc, hc', Option.map_none]
  session := by
    rw [hs]
    cases c.session
    case none => exact .none
    case some headers => exact .some <| .refl headers
  isOwn := isOwn_of_settings_none hc
  isOwn' := isOwn_of_settings_none hc'

-- A start fails alike, or gives the renamed settings; what is logged says nothing of a token.
theorem Renamed.start (hρ : Renames ρ) (h : c.Renamed ρ c') :
    c.start.1.Renamed ρ c'.start.1 ∧ c'.start.2 = c.start.2 := by
  have ho := h.isOwn.start
  have ho' := h.isOwn'.start
  unfold Client.start at ho ho' ⊢
  rw [h.properties] at ho' ⊢
  cases hp : Settings.ofProperties c.properties <;> rw [hp] at ho ho'
  case error => exact ⟨h, rfl⟩
  case ok σ =>
    have hs := (Headers.alike_getD h.session Headers.standard).update hρ σ
    exact ⟨⟨h.properties, rfl, .some hs, ho, ho'⟩, rfl⟩

theorem Renamed.stop (h : c.Renamed ρ c') : c.stop.Renamed ρ c'.stop where
  properties := h.properties
  settings := h.settings
  session := .none
  isOwn := IsOwn.stop c
  isOwn' := IsOwn.stop c'

end Client

def TransportCause.masked : TransportCause → TransportCause
  | .rejected fault => .rejected fault.masked
  | cause => cause

def Failure.masked : Failure → Failure
  | .transport method address cause => .transport method address cause.masked
  | failure => failure

theorem Failure.masked_ofRejection (method address : String) (fault : Request.Fault) :
    (ofRejection method address fault).masked = ofRejection method address fault.masked := by
  cases fault <;> rfl

-- Outcomes that cannot be told apart, but for what a mask hides of their failures.
structure Outcomes {α : Type} (ρ : String → String) (R : α → α → Prop) (o o' : Outcome α) :
    Prop where
  result  : Agree Failure.masked R o.result o'.result
  log     : o'.log = o.log
  service : o.service.Renamed ρ o'.service

def Answers (a a' : Request × Response) : Prop :=
  a.1.Alike a'.1 ∧ a'.2 = a.2

namespace Outcomes

variable {α β : Type} {R : α → α → Prop} {s s' : Service}

theorem fail (hs : s.Renamed ρ s') (failure : Failure) :
    Outcomes ρ R (.fail s failure) (.fail s' failure) :=
  ⟨.error rfl, rfl, hs⟩

theorem andThen {o o' : Outcome α} (h : Outcomes ρ R o o')
    {next : α → Except Failure β × List LogLine} (hn : ∀ a a', R a a' → next a' = next a) :
    Outcomes ρ Eq (o.andThen next) (o'.andThen next) := by
  have ⟨result, log, s⟩ := o
  have ⟨result', log', s'⟩ := o'
  have ⟨hr, hl, hs⟩ := h
  cases hr
  case error hf => exact ⟨.error hf, hl, hs⟩
  case ok a a' ha =>
    cases hl
    simp only [Outcome.andThen, hn a a' ha]
    exact ⟨.refl .., rfl, hs⟩

theorem collect {o o' : Outcome Client.Answer} (h : Outcomes ρ Eq o o') (into : α)
    (deliver : Client.Answer → Status × α) :
    Outcomes ρ Eq (Client.collect o into deliver).1 (Client.collect o' into deliver).1 ∧
      (Client.collect o' into deliver).2 = (Client.collect o into deliver).2 := by
  have ⟨result, log, s⟩ := o
  have ⟨result', log', s'⟩ := o'
  have ⟨hr, hl, hs⟩ := h
  cases hr
  case error hf => exact ⟨⟨.error hf, hl, hs⟩, rfl⟩
  case ok ha =>
    cases ha
    exact ⟨⟨.ok rfl, hl, hs⟩, rfl⟩

end Outcomes

namespace Client

theorem statusOf_answers {a a' : Request × Response} (h : Answers a a') :
    statusOf a'.1 a'.2 = statusOf a.1 a.2 := by
  rw [h.right, statusOf, h.left.method, h.left.url]
  rfl

theorem interpret_answers {a a' : Request × Response} (h : Answers a a') (stack : Stack)
    (query : String) : interpret stack query a'.1 a'.2 = interpret stack query a.1 a.2 := by
  rw [interpret, statusOf_answers h, h.right]
  rfl

variable {c c' : Client} {s s' : Service}

theorem answered_renamed {r r' : Request} (hr : r.Alike r')
    {sent sent' : Service × Except Service.Fault Response} (he : sent'.2 = sent.2)
    (hs : sent.1.Renamed ρ sent'.1) (method address : String) :
    Outcomes ρ Answers (answered method address r sent) (answered method address r' sent') := by
  have ⟨s, result⟩ := sent
  have ⟨s', result'⟩ := sent'
  cases he
  cases result
  case error => exact ⟨.error rfl, rfl, hs⟩
  case ok response =>
    simp only [answered]
    split
    case isTrue => exact ⟨.error rfl, rfl, hs⟩
    case isFalse => exact ⟨.ok ⟨hr, rfl⟩, rfl, hs⟩

section

variable (hρ : Renames ρ) (hc : c.Renamed ρ c') (hs : s.Renamed ρ s')
include hρ hc hs

-- Requests are made alike, and the service answers them alike.
theorem exchange_renamed {σ : Settings} (hσ : c.settings = some σ) (method address : String)
    (parameters : List (String × String)) (body : Option String) :
    Outcomes ρ Answers (c.exchange s method address parameters body)
      (c'.exchange s' method address parameters body) := by
  have hσ' : c'.settings = some (σ.rename ρ) := by rw [hc.settings, hσ, Option.map_some]
  have hr := hc.session
  cases hh : c.session <;> cases hh' : c'.session <;> rw [hh, hh'] at hr <;> cases hr
  case none.none =>
    rw [exchange_of_session_none hh, exchange_of_session_none hh']
    exact ⟨.error rfl, rfl, hs⟩
  case some.some headers headers' ha =>
    have hg := Request.agree_prepare ha method address parameters body
    cases hp : Request.prepare (draft method address parameters body headers) <;>
      cases hp' : Request.prepare (draft method address parameters body headers') <;>
      rw [hp, hp'] at hg <;> cases hg
    case error.error hf =>
      rw [exchange_of_prepare_error hh hp, exchange_of_prepare_error hh' hp']
      refine ⟨.error ?_, rfl, hs⟩
      rw [Failure.masked_ofRejection, Failure.masked_ofRejection, hf]
    case ok.ok r r' hr =>
      have ht := Request.authorizes_of_prepare hρ (hc.isOwn σ headers hσ hh)
        (hc.isOwn' (σ.rename ρ) headers' hσ' hh') hp hp' hr.url s.token
      have ⟨he, hs⟩ := hs.send hr (hs.token ▸ ht)
      rw [exchange_of_prepare hh hp, exchange_of_prepare hh' hp']
      exact answered_renamed hr he hs method address

theorem ask_renamed (query : String) : Outcomes ρ Eq (c.ask s query) (c'.ask s' query) := by
  unfold ask
  rw [hc.settings, hs.stack]
  cases hσ : c.settings
  case none => exact .fail hs .notReady
  case some σ =>
    exact (exchange_renamed hρ hc hs hσ ..).andThen fun _ _ ha => interpret_answers ha _ query

theorem submit_renamed {σ : Settings} (hσ : c.settings = some σ) (address body : String)
    (parameters : List (String × String)) :
    Outcomes ρ Eq (c.submit s address body parameters) (c'.submit s' address body parameters) := by
  refine (exchange_renamed hρ hc hs hσ ..).andThen fun _ _ ha => ?_
  dsimp only
  rw [statusOf_answers ha]

theorem post_renamed (m : Mutation) : Outcomes ρ Eq (c.post s m) (c'.post s' m) := by
  unfold post
  rw [hc.settings]
  cases m.body
  case error => exact .fail hs _
  case ok body =>
    cases hσ : c.settings
    case none => exact .fail hs .notReady
    case some σ => exact submit_renamed hρ hc hs hσ ..

theorem insert_renamed (type id : JsonText) (values : List (JsonText × FieldInput)) :
    Outcomes ρ Eq (c.insert s type id values) (c'.insert s' type id values) := by
  unfold insert
  rw [hc.settings]
  cases hσ : c.settings
  case none => exact .fail hs .notReady
  case some σ =>
    dsimp only [Option.map_some]
    have hk : (σ.rename ρ).insertKind = σ.insertKind := rfl
    rw [hk]
    cases Mutation.body ⟨σ.insertKind, type, id, values⟩
    case error => exact .fail hs _
    case ok body => exact submit_renamed hρ hc hs hσ ..

theorem read_renamed (type id : String) (fields : Option (List String)) (into : Record) :
    Outcomes ρ Eq (c.read s type id fields into).1 (c'.read s' type id fields into).1 ∧
      (c'.read s' type id fields into).2 = (c.read s type id fields into).2 :=
  (ask_renamed hρ hc hs _).collect into _

theorem scan_renamed (type start : String) (count : Int) (fields : Option (List String))
    (into : List Record) :
    Outcomes ρ Eq (c.scan s type start count fields into).1
        (c'.scan s' type start count fields into).1 ∧
      (c'.scan s' type start count fields into).2 = (c.scan s type start count fields into).2 := by
  rw [scan_eq, scan_eq]
  cases Selection.rangeText type start count (fields.getD [])
  case error => exact ⟨.fail hs _, rfl⟩
  case ok query => exact (ask_renamed hρ hc hs query).collect into _

end

end Client

namespace Bench

def Report.masked : Report → Report
  | .call result log delivery => .call (result.mapError Failure.masked) log delivery
  | report => report

theorem masked_reportOf {o o' : Outcome Status} {delivery delivery' : Delivery}
    (h : Outcomes ρ Eq o o') (hd : delivery' = delivery) :
    (reportOf o' delivery').1.masked = (reportOf o delivery).1.masked := by
  have ⟨result, log, s⟩ := o
  have ⟨result', log', s'⟩ := o'
  have ⟨hr, hl, hs⟩ := h
  cases hl
  cases hd
  cases hr
  case error hf => simp [reportOf, Report.masked, Except.map, Except.mapError, hf]
  case ok ha =>
    cases ha
    rfl

section

variable {c c' : Client} {s s' : Service} (hρ : Renames ρ)
include hρ

theorem runCall_renamed (hc : c.Renamed ρ c') (hs : s.Renamed ρ s') (call : Call) :
    (runCall c' s' call).1.masked = (runCall c s call).1.masked ∧
      (runCall c s call).2.1.Renamed ρ (runCall c' s' call).2.1 ∧
      (runCall c s call).2.2.Renamed ρ (runCall c' s' call).2.2 := by
  cases call
  case start =>
    obtain ⟨hc, he⟩ := hc.start hρ
    refine ⟨?_, hc, hs⟩
    simp [runCall, he]
  case stop => exact ⟨rfl, hc.stop, hs⟩
  case read type id fields into =>
    obtain ⟨ho, hi⟩ := Client.read_renamed hρ hc hs type id fields into
    exact ⟨masked_reportOf ho (congrArg Delivery.record hi), hc, ho.service⟩
  case scan type start count fields into =>
    obtain ⟨ho, hi⟩ := Client.scan_renamed hρ hc hs type start count fields into
    exact ⟨masked_reportOf ho (congrArg Delivery.records hi), hc, ho.service⟩
  case insert type id values =>
    have ho := Client.insert_renamed hρ hc hs type id (Mutation.named values)
    exact ⟨masked_reportOf ho rfl, hc, ho.service⟩
  case update type id values =>
    have ho := Client.post_renamed hρ hc hs ⟨.patch, type, id, Mutation.named values⟩
    exact ⟨masked_reportOf ho rfl, hc, ho.service⟩
  case delete type id =>
    have ho := Client.post_renamed hρ hc hs ⟨.delete, type, id, []⟩
    exact ⟨masked_reportOf ho rfl, hc, ho.service⟩

end

-- The same step of those who use clients, with the tokens renamed: a client enters with properties
-- that give the renamed token, and all else is as it was.
inductive Step.Renamed (ρ : String → String) : Step → Step → Prop
  | enter (name : String) {c c' : Client} (hc : c.settings = none) (hc' : c'.settings = none)
    (hs : c'.session = c.session) (hp : Settings.Retokened ρ c.properties c'.properties) :
    Step.Renamed ρ (.enter name c) (.enter name c')
  | call (name : String) (call : Call) : Step.Renamed ρ (.call name call) (.call name call)
  | enqueue (queued : QueuedAnswer) : Step.Renamed ρ (.enqueue queued) (.enqueue queued)
  | clear : Step.Renamed ρ .clear .clear

structure Renamed (ρ : String → String) (b b' : Bench) : Prop where
  service : b.service.Renamed ρ b'.service
  clients : ∀ name, Option.Rel (Client.Renamed ρ) (b.clients.get? name) (b'.clients.get? name)

variable {b b' : Bench}

theorem Renamed.put (hb : b.Renamed ρ b') {s s' : Service} (hs : s.Renamed ρ s') {c c' : Client}
    (hc : c.Renamed ρ c') (name : String) :
    Renamed ρ ⟨s, b.clients.put name c⟩ ⟨s', b'.clients.put name c'⟩ where
  service := hs
  clients := by
    intro other
    by_cases hn : other = name
    case pos =>
      rw [hn, Entries.get?_put_self, Entries.get?_put_self]
      exact .some hc
    case neg =>
      rw [Entries.get?_put_of_ne _ _ hn, Entries.get?_put_of_ne _ _ hn]
      exact hb.clients other

theorem step_renamed (hρ : Renames ρ) (hb : b.Renamed ρ b') {step step' : Step}
    (h : step.Renamed ρ step') :
    (b'.step step').1.masked = (b.step step).1.masked ∧
      (b.step step).2.Renamed ρ (b'.step step').2 := by
  cases h
  case enter name c c' hc hc' hs hp =>
    exact ⟨rfl, hb.put hb.service (Client.renamed_new hc hc' hs hp) name⟩
  case call name call =>
    have hn := hb.clients name
    cases hg : b.clients.get? name <;> cases hg' : b'.clients.get? name <;> rw [hg, hg'] at hn <;>
      cases hn
    case none.none =>
      simp only [step, hg, hg']
      exact ⟨trivial, hb⟩
    case some.some hc =>
      have ⟨hr, hc, hs⟩ := runCall_renamed hρ hc hb.service call
      simp only [step, hg, hg']
      exact ⟨hr, hb.put hs hc name⟩
  case enqueue queued =>
    have hs := hb.service
    exact ⟨rfl, ⟨⟨hs.token, hs.stack, hs.record, congrArg (· ++ [queued]) hs.queue, hs.documents⟩,
      hb.clients⟩⟩
  case clear => exact ⟨rfl, ⟨⟨hb.service.token, hb.service.stack, .nil, rfl, rfl⟩, hb.clients⟩⟩

theorem run_renamed (hρ : Renames ρ) (hb : b.Renamed ρ b') {steps steps' : List Step}
    (h : List.Forall₂ (Step.Renamed ρ) steps steps') :
    (b'.run steps').1.map Report.masked = (b.run steps).1.map Report.masked ∧
      (b.run steps).2.Renamed ρ (b'.run steps').2 := by
  induction h generalizing b b'
  case nil => exact ⟨rfl, hb⟩
  case cons h _ hi =>
    have ⟨hr, hb⟩ := step_renamed hρ hb h
    have ⟨hr', hb⟩ := hi hb
    exact ⟨List.cons_eq_cons.mpr ⟨hr, hr'⟩, hb⟩

-- Two runs of the same steps, of which the second has the tokens of the first renamed. After any
-- number of steps the reports are the same, but for the value of a header that cannot be sent; so
-- are the documents and the queued answers; and as many requests were recorded, which differ in
-- their authorization alone.
theorem run_tokens (hρ : Renames ρ) (s : Service) {steps steps' : List Step}
    (h : List.Forall₂ (Step.Renamed ρ) steps steps') (n : Nat) :
    (run ⟨{ s with token := s.token.map ρ }, []⟩ (steps'.take n)).1.map Report.masked =
        (run ⟨s, []⟩ (steps.take n)).1.map Report.masked ∧
      (run ⟨s, []⟩ (steps.take n)).2.service.Renamed ρ
        (run ⟨{ s with token := s.token.map ρ }, []⟩ (steps'.take n)).2.service := by
  have hs : s.Renamed ρ { s with token := s.token.map ρ } :=
    ⟨rfl, rfl, List.forall₂_same.mpr fun r _ => .refl r, rfl, rfl⟩
  have hb : Bench.Renamed ρ ⟨s, []⟩ ⟨{ s with token := s.token.map ρ }, []⟩ := ⟨hs, fun _ => .none⟩
  have ⟨hr, hb⟩ := run_renamed hρ hb (List.forall₂_take n h)
  exact ⟨hr, hb.service⟩

def visit (token : List (String × Json)) : List Step :=
  [.enter "a" { properties := ("sanity.dataset", .text "main") :: token }, .call "a" .start,
   .call "a" (.insert "t" "k" []), .enqueue (.failure ⟨.timeout, "slow"⟩),
   .call "a" (.read "t" "k" none [])]

theorem renames_append : Renames (· ++ "x") where
  injective a b h := by simpa using h
  isValue token := by simp [Headers.isValue]

theorem visit_renamed :
    List.Forall₂ (Step.Renamed (· ++ "x")) (visit [])
      (visit [("sanity.api.auth_token", .text "x")]) := by
  refine .cons (.enter "a" rfl rfl rfl ⟨?_, rfl, fun _ => by decide⟩) <| .cons (.call ..) <|
    .cons (.call ..) <| .cons (.enqueue ..) <| .cons (.call ..) .nil
  intro p hp
  cases p <;> first | rfl | exact absurd rfl hp

theorem run_tokens_visit :
    Renames (· ++ "x") ∧
    List.Forall₂ (Step.Renamed (· ++ "x")) (visit [])
      (visit [("sanity.api.auth_token", .text "x")]) ∧
    (run ⟨{ token := some "" }, []⟩ (visit [])).2.service.record.map Request.authorization =
      [some "Bearer ", some "Bearer "] ∧
    (run ⟨{ token := some "x" }, []⟩
        (visit [("sanity.api.auth_token", .text "x")])).2.service.documents =
      (run ⟨{ token := some "" }, []⟩ (visit [])).2.service.documents := by
  have ht token : (visit token).take 5 = visit token := rfl
  have ⟨_, h⟩ := run_tokens renames_append { token := some "" } visit_renamed 5
  rw [ht, ht] at h
  have hd := h.documents
  simp only [Option.map_some, String.empty_append] at hd
  exact ⟨renames_append, visit_renamed, by decide +kernel, hd⟩

end Bench

end DocStore
