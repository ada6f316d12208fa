import DocStore.Proofs.Client.Lifecycle
import Mathlib.Data.List.Nodup

namespace DocStore

namespace Address

-- Whether the host of an address has a percent sign that starts no escape, which the zone of a
-- numeric address may have. Then no percent sign of the whole address counts as one.
def breaksEscapes (address : String) : Bool :=
  (Url.normal (String.ofList (Text.dropBlank address.toList))).toOption.any
    fun u => Percent.hasBrokenEscape u.host

theorem breaksEscapes_of_normal {address : String} {u : Url}
    (h : Url.normal (String.ofList (Text.dropBlank address.toList)) = .ok u) :
    breaksEscapes address = Percent.hasBrokenEscape u.host := by
  rw [breaksEscapes, h]
  rfl

-- What becomes of parameters on their way through an address.
def conveyed (address : String) (parameters : List (String × String)) : List (String × String) :=
  if breaksEscapes address then parameters.map (Prod.map Form.spelled Form.spelled) else parameters

theorem nodup_conveyed {parameters : List (String × String)}
    (h : (parameters.map Prod.fst).Nodup) (address : String) :
    ((conveyed address parameters).map Prod.fst).Nodup := by
  unfold conveyed
  split
  case isTrue =>
    have hm : (parameters.map (Prod.map Form.spelled Form.spelled)).map Prod.fst =
        (parameters.map Prod.fst).map Form.spelled := by simp [Function.comp_def]
    exact hm ▸ h.map Form.spelled_injective
  case isFalse => exact h

end Address

namespace Request

variable {d : Draft} {r : Request}

-- Where the address has no query of its own, the parameters alone are the query.
theorem query_of_prepare (hq : '?' ∉ d.address.toList) (h : prepare d = .ok r) :
    r.url.query = Url.sendPart (Address.breaksEscapes d.address) (Form.encode d.parameters) := by
  have ⟨ha, _, hw⟩ := prepare_eq_ok h
  cases hf : Address.isForeign (Text.dropBlank d.address.toList)
  case true =>
    have hf : Address.ofText d.address d.parameters =
        .ok (.foreign (String.ofList (Text.dropBlank d.address.toList))) := by
      simp [Address.ofText, hf]
    cases hf.symm.trans ha
  case false =>
    cases hu : Url.normal (String.ofList (Text.dropBlank d.address.toList))
    case error fault =>
      have hf : Address.ofText d.address d.parameters = .error fault := by
        simp [Address.ofText, hf, Url.ofText, hu, Except.map]
      cases hf.symm.trans ha
    case ok u =>
      have he := Except.ok.inj <| ha.symm.trans <| ofText_eq_ok hu hf d.parameters
      have he := Address.url.inj he
      rw [he] at hw
      have hn : u.query = [] := Url.query_normal hu <| by simpa using not_mem_dropBlank hq
      rw [he, Url.sent_joinQuery, (Url.tidy_normal hu hw).isBroken_eq, hn, Url.joinQuery_nil,
        Address.breaksEscapes_of_normal hu]

theorem parameters_of_prepare (hq : '?' ∉ d.address.toList)
    (hv : ∀ parameter ∈ d.parameters, parameter.2 ≠ "") (h : prepare d = .ok r) :
    r.parameters = Address.conveyed d.address d.parameters := by
  rw [parameters, query_of_prepare hq h, Url.decode_sendPart_encode _ hv, Address.conveyed]

theorem parameter?_of_prepare {q : String} (hd : d.parameters = [("query", q)])
    (hq : '?' ∉ d.address.toList) (hv : q ≠ "") (h : prepare d = .ok r) :
    Service.parameter? r "query" =
      some (if Address.breaksEscapes d.address then Form.spelled q else q) := by
  have hs : Form.spelled "query" = "query" := by decide
  rw [Service.parameter?, parameters_of_prepare hq (by simpa [hd] using hv) h, hd,
    Address.conveyed]
  cases Address.breaksEscapes d.address <;> simp [hs]

end Request

namespace Service

theorem latestParameters?_send {d : Request.Draft} {r : Request} (hq : '?' ∉ d.address.toList)
    (hn : (d.parameters.map Prod.fst).Nodup) (hv : ∀ parameter ∈ d.parameters, parameter.2 ≠ "")
    (h : Request.prepare d = .ok r) (s : Service) :
    (s.send r).1.latestParameters? = some (Address.conveyed d.address d.parameters) := by
  rw [latestParameters?, latest?_send, Option.map_some, Request.parameters_of_prepare hq hv h,
    Entries.ofList_of_nodup (Address.nodup_conveyed hn _)]

end Service

namespace Bench

def Call.query? : Call → Option String
  | .read type id fields _ => some (Query.lookup type id (fields.getD [])).text
  | .scan type bound count fields _ =>
    (Selection.rangeText type bound count (fields.getD [])).toOption
  | _ => none

def Call.parameters (σ : Settings) : Call → List (String × String)
  | .insert .. => [("visibility", σ.visibility.name)]
  | call => call.query?.toList.map ("query", ·)

section

variable {call : Call} {σ : Settings} {headers : Headers} {d : Request.Draft}

theorem parameters_of_draft? (h : call.draft? σ headers = some d) :
    d.parameters = call.parameters σ := by
  cases call
  case start => cases h
  case stop => cases h
  case read =>
    cases h
    rfl
  all_goals
    rw [Call.draft?] at h
    obtain ⟨_, hq, rfl⟩ := Option.map_eq_some_iff.mp h
    simp [Call.parameters, Call.query?, Client.draft, hq]

theorem parameters_of_query? {q : String} (h : call.query? = some q) :
    call.parameters σ = [("query", q)] := by
  have hq : call.query?.toList.map ("query", ·) = [("query", q)] := by simp [h]
  cases call
  case insert => cases h
  all_goals exact hq

theorem isQuery_of_query? {q : String} (h : call.query? = some q) : call.isQuery = true := by
  cases call <;> first | rfl | cases h

theorem query?_ne_empty {q : String} (h : call.query? = some q) : q ≠ "" := by
  cases call
  case read =>
    rw [← Option.some.inj h]
    exact Query.text_ne_empty _
  case scan type start count fields _ =>
    rw [Call.query?] at h
    rcases Selection.rangeText_cases type start count (fields.getD []) with
      ⟨_, ht⟩ | ⟨_, _, ht⟩ | ⟨n, q, rfl, _, _, ht⟩ <;> rw [ht] at h <;> cases h
    case inr.inr => exact q.text_ne_empty
  all_goals cases h

theorem nodup_parameters (call : Call) (σ : Settings) :
    ((call.parameters σ).map Prod.fst).Nodup := by
  have hq : ((call.query?.toList.map ("query", ·)).map Prod.fst).Nodup := by
    cases call.query? <;> simp
  cases call
  case insert => simp [Call.parameters]
  all_goals exact hq

theorem parameters_ne_empty (call : Call) (σ : Settings) :
    ∀ parameter ∈ call.parameters σ, parameter.2 ≠ "" := by
  have hq : ∀ parameter ∈ call.query?.toList.map ("query", ·), parameter.2 ≠ "" := by
    intro parameter hm
    obtain ⟨q, hq, rfl⟩ := List.mem_map.mp hm
    exact query?_ne_empty <| Option.mem_toList.mp hq
  cases call
  case insert =>
    have hv : σ.visibility.name ≠ "" := by cases σ.visibility <;> decide
    simpa [Call.parameters] using hv
  all_goals exact hq

end

theorem prepare_of_record {s : Service} {draft : Request.Draft} {r : Request}
    (h : (request s draft).1.record = s.record ++ [r]) :
    Request.prepare draft = .ok r ∧ (request s draft).1 = (s.send r).1 := by
  cases hp : Request.prepare draft
  case error => simp [request, hp] at h
  case ok r' =>
    simp only [request, hp, Service.record_send, List.append_cancel_left_eq, List.cons.injEq,
      and_true] at h
    simp [request, hp, h]

-- After a request that has reached the service, of whatever caller, the service sees the parameters
-- that were passed: all that a request was given, and of a call the text of its query, the mode in
-- which an insert is to be visible, or nothing. It is that text that is looked up in the documents.
theorem parameters_arrive :
    (∀ (s : Service) (draft : Request.Draft) (r : Request),
      (request s draft).1.record = s.record ++ [r] → '?' ∉ draft.address.toList →
      (draft.parameters.map Prod.fst).Nodup → (∀ parameter ∈ draft.parameters, parameter.2 ≠ "") →
      (request s draft).1.latestParameters? =
        some (Address.conveyed draft.address draft.parameters)) ∧
    ∀ (c : Client) (s : Service) (call : Call) (σ : Settings) (r : Request),
      (runCall c s call).2.2.record = s.record ++ [r] → c.settings = some σ →
      '?' ∉ (call.address σ).toList →
      (runCall c s call).2.2.latestParameters? =
        some (Address.conveyed (call.address σ) (call.parameters σ)) ∧
      ∀ q, call.query? = some q → Service.authorizes s.token r = true →
        Service.endpoint? r.url.path = some .query →
        Service.answer s.token s.stack r s.documents = (s.documents, Service.answerQuery s.stack
          (if Address.breaksEscapes (call.address σ) then Form.spelled q else q) s.documents) := by
  refine ⟨fun s draft r h hq hn hv => ?request, fun c s call σ r h hσ hq => ?call⟩
  case request =>
    have ⟨hp, hs⟩ := prepare_of_record h
    rw [hs, Service.latestParameters?_send hq hn hv hp]
  case call =>
    have ⟨σ', headers, d, hσ', hd, hp, hs⟩ := draft?_of_record h
    cases hσ.symm.trans hσ'
    have ⟨ha, _⟩ := eq_of_draft? hd
    have hd' := parameters_of_draft? hd
    have hn := nodup_parameters call σ
    have hv := parameters_ne_empty call σ
    rw [← ha] at hq ⊢
    rw [← hd'] at hn hv ⊢
    refine ⟨by rw [hs, Service.latestParameters?_send hq hn hv hp], ?_⟩
    intro q hc hu he
    have hm : d.method = "GET" := by rw [method_of_draft? hd, isQuery_of_query? hc, if_pos rfl]
    have hm : r.method = "GET" := Request.method_of_get hm hp
    have hc' := hd'.trans <| parameters_of_query? hc
    have hr := Request.parameter?_of_prepare hc' hq (query?_ne_empty hc) hp
    simp [Service.answer, hu, he, hm, hr]

def punctuated : Request.Draft where
  method     := "GET"
  address    := "https://h/v1/query/d"
  parameters := [("", "&=+%25;#?"), ("é &", "\n😀")]

def reader : Client :=
  (Client.start { properties := [("sanity.dataset", .text "main")] }).1

def punctuatedRead : Call := .read "t" "'&#\n" none []

theorem parameters_arrive_punctuated :
    (∃ r, (request {} punctuated).1.record = [] ++ [r]) ∧
    '?' ∉ punctuated.address.toList ∧
    (punctuated.parameters.map Prod.fst).Nodup ∧
    (∀ parameter ∈ punctuated.parameters, parameter.2 ≠ "") ∧
    (request {} punctuated).1.latestParameters? = some punctuated.parameters ∧
    ∃ r σ, (runCall reader {} punctuatedRead).2.2.record = [] ++ [r] ∧
      reader.settings = some σ ∧ '?' ∉ (punctuatedRead.address σ).toList ∧
      punctuatedRead.query? = some "*[_type == 't' && _id == '\\'&#\n']" ∧
      (runCall reader {} punctuatedRead).2.2.latestParameters? =
        some [("query", "*[_type == 't' && _id == '\\'&#\n']")] ∧
      Service.authorizes none r = true ∧ Service.endpoint? r.url.path = some .query ∧
      Service.answer none default r [] =
        ([], Service.answerQuery default "*[_type == 't' && _id == '\\'&#\n']" []) := by
  have ⟨hr, hc⟩ := parameters_arrive
  have hq : '?' ∉ punctuated.address.toList := by decide
  have hn : (punctuated.parameters.map Prod.fst).Nodup := by decide
  have hv : ∀ parameter ∈ punctuated.parameters, parameter.2 ≠ "" := by decide
  obtain ⟨r, h⟩ : ∃ r, (request {} punctuated).1.record = [] ++ [r] :=
    List.length_eq_one_iff.mp (by decide +kernel)
  have hl := hr {} punctuated r h hq hn hv
  have hb : Address.breaksEscapes punctuated.address = false := by decide +kernel
  rw [Address.conveyed, hb] at hl
  refine ⟨⟨r, h⟩, hq, hn, hv, hl, ?_⟩
  have ⟨hr, hp⟩ : (runCall reader {} punctuatedRead).2.2.record.length = 1 ∧
      ∀ r ∈ (runCall reader {} punctuatedRead).2.2.record,
        Service.authorizes none r = true ∧ Service.endpoint? r.url.path = some .query := by
    decide +kernel
  obtain ⟨r, h⟩ : ∃ r, (runCall reader {} punctuatedRead).2.2.record = [] ++ [r] :=
    List.length_eq_one_iff.mp hr
  have ⟨hu, he⟩ := hp r (by simp [h])
  obtain ⟨σ, hσ⟩ : ∃ σ, reader.settings = some σ := Option.isSome_iff_exists.mp (by decide +kernel)
  have ⟨hq, hb⟩ : '?' ∉ (punctuatedRead.address σ).toList ∧
      Address.breaksEscapes (punctuatedRead.address σ) = false := by
    have hσs : ∀ σ, reader.settings = some σ → '?' ∉ (punctuatedRead.address σ).toList ∧
        Address.breaksEscapes (punctuatedRead.address σ) = false := by decide +kernel
    exact hσs σ hσ
  have ht : punctuatedRead.query? = some "*[_type == 't' && _id == '\\'&#\n']" := by decide +kernel
  have ⟨hl, ha⟩ := hc reader {} punctuatedRead σ r h hσ hq
  have ha := ha _ ht hu he
  rw [Address.conveyed, hb, parameters_of_query? ht] at hl
  rw [hb] at ha
  exact ⟨r, σ, h, hσ, hq, ht, hl, hu, he, ha⟩

-- The zone of this host starts with no hexadecimal digits.
def zoned : Request.Draft where
  method     := "GET"
  address    := "https://[fe80::1%eth0]/v/query/d"
  parameters := [("a", "b&c")]

theorem parameters_zone :
    (∃ r, (request {} zoned).1.record = [r]) ∧
    '?' ∉ zoned.address.toList ∧ '#' ∉ zoned.address.toList ∧
    (request {} zoned).1.latestParameters? = some [("a", "b%26c")] ∧
    (request {} zoned).1.latestParameters? ≠ some zoned.parameters := by
  have ⟨hr, hl⟩ : (request {} zoned).1.record.length = 1 ∧
      (request {} zoned).1.latestParameters? = some [("a", "b%26c")] := by
    decide +kernel
  have hn : (request {} zoned).1.latestParameters? ≠ some zoned.parameters := by
    rw [hl]
    decide
  exact ⟨List.length_eq_one_iff.mp hr, by decide, by decide, hl, hn⟩

end Bench

end DocStore
