import DocStore.Proofs.Client.Exchange
import DocStore.Proofs.Headers
import Mathlib.Data.List.Forall2

namespace DocStore

-- A renaming of tokens that keeps different ones apart, and makes no token one that cannot be sent
-- of one that can, or the other way round. A token is sent behind the word that says what it is.
structure Renames (ρ : String → String) : Prop where
  injective : Function.Injective ρ
  isValue   : ∀ token,
    Headers.isValue ("Bearer " ++ ρ token) = Headers.isValue ("Bearer " ++ token)

def Settings.rename (ρ : String → String) (σ : Settings) : Settings :=
  { σ with token := ρ σ.token }

namespace Headers

def Fault.masked : Fault → Fault
  | .value _ => .value ""
  | fault => fault

-- Headers of the same names, and of the same values but for authorizations.
def Alike : Headers → Headers → Prop :=
  List.Forall₂ fun h h' => h'.1 = h.1 ∧ isValue h'.2 = isValue h.2 ∧
    (sameName h.1 "Authorization" = false → h'.2 = h.2)

theorem Alike.refl (headers : Headers) : Alike headers headers :=
  List.forall₂_same.mpr fun _ _ => ⟨rfl, rfl, fun _ => rfl⟩

section

variable {headers headers' : Headers} (h : headers.Alike headers')
include h

theorem Alike.put {name value value' : String} (hv : isValue value' = isValue value)
    (hn : sameName name "Authorization" = false → value' = value) :
    Alike (put name value headers) (put name value' headers') := by
  induction h
  case nil => exact .cons ⟨rfl, hv, hn⟩ .nil
  case cons h hs hi =>
    rw [Headers.put, Headers.put, h.left]
    split
    case isTrue => exact .cons ⟨rfl, hv, hn⟩ hs
    case isFalse => exact .cons h hi

theorem Alike.update {ρ : String → String} (hρ : Renames ρ) (σ : Settings) :
    Alike (update headers σ.headers) (Headers.update headers' (σ.rename ρ).headers) := by
  rw [update_headers, update_headers]
  exact (h.put rfl fun _ => rfl).put (hρ.isValue σ.token) fun hn => by simp [sameName] at hn

theorem Alike.fault? : (fault? headers').map Fault.masked = (fault? headers).map Fault.masked := by
  induction h
  case nil => rfl
  case cons h _ hi =>
    rw [Headers.fault?, Headers.fault?, h.left, h.right.left]
    repeat' split
    case isTrue.isTrue => exact hi
    all_goals rfl

end

end Headers

namespace Request

def Fault.masked : Fault → Fault
  | .header fault => .header fault.masked
  | fault => fault

structure Alike (r r' : Request) : Prop where
  method  : r'.method = r.method
  url     : r'.url = r.url
  headers : r.headers.Alike r'.headers
  body    : r'.body = r.body

theorem Alike.refl (r : Request) : Alike r r :=
  ⟨rfl, rfl, .refl r.headers, rfl⟩

section

variable {headers headers' : Headers} (h : headers.Alike headers')
include h

theorem agree_authorize (authority : List Char) :
    Agree Fault.masked Headers.Alike (authorize headers authority)
      (authorize headers' authority) := by
  unfold authorize
  cases Authority.credentials? authority
  case none => exact .ok h
  case some c =>
    dsimp only
    cases c.header
    case error => exact .error rfl
    case ok => exact .ok <| h.put rfl fun _ => rfl

theorem agree_outgoing (address : Address) :
    Agree Fault.masked Headers.Alike (outgoing headers.given address)
      (outgoing headers'.given address) := by
  rw [outgoing_given, outgoing_given]
  have hf := h.fault?
  cases hs : headers.fault? <;> cases hs' : headers'.fault? <;> rw [hs, hs'] at hf
  case none.none =>
    dsimp only
    cases Authority.fault? address.authority
    case none => exact agree_authorize h address.authority
    case some => exact .error rfl
  case none.some => cases hf
  case some.none => cases hf
  case some.some =>
    exact .error <| congrArg Fault.header <| Option.some.inj hf

theorem agree_prepare (method address : String) (parameters : List (String × String))
    (body : Option String) :
    Agree Fault.masked Alike (prepare (Client.draft method address parameters body headers))
      (prepare (Client.draft method address parameters body headers')) := by
  unfold prepare Client.draft
  dsimp only
  cases Authority.fault? (Authority.ofAddress address.toList)
  case some => exact .error rfl
  case none =>
    cases Address.ofText address parameters
    case error => exact .error rfl
    case ok address =>
      dsimp only
      cases ho : outgoing headers.given address <;> cases ho' : outgoing headers'.given address <;>
        have ha := agree_outgoing h address <;> rw [ho, ho'] at ha <;> cases ha
      case error.error hf => exact .error hf
      case ok.ok ha =>
        dsimp only
        cases address.supported?
        case error => exact .error rfl
        case ok url => exact .ok ⟨rfl, rfl, ha, rfl⟩

end

theorem authorizes_bearer {r : Request} {sent : String}
    (h : r.authorization = some ("Bearer " ++ sent)) (token : String) :
    Service.authorizes (some token) r = decide (sent = token) := by
  simp [Service.authorizes, h]

theorem authorizes_basic {r : Request} {rest : String}
    (h : r.authorization = some ("Basic " ++ rest)) (token : String) :
    Service.authorizes (some token) r = false := by
  have hn : "Basic " ++ rest ≠ "Bearer " ++ token := by
    intro he
    have := congrArg String.toList he
    simp at this
  simp [Service.authorizes, h, hn]

-- Whether requests may pass is up to the token in their session, or to credentials, which are none.
theorem authorizes_of_prepare {ρ : String → String} (hρ : Renames ρ) {σ : Settings}
    {headers headers' : Headers} (hc : headers.Carry σ) (hc' : headers'.Carry (σ.rename ρ))
    {method address : String} {parameters : List (String × String)} {body : Option String}
    {r r' : Request}
    (hp : prepare (Client.draft method address parameters body headers) = .ok r)
    (hp' : prepare (Client.draft method address parameters body headers') = .ok r')
    (hu : r'.url = r.url) (token : Option String) :
    Service.authorizes (token.map ρ) r' = Service.authorizes token r := by
  cases token
  case none => rfl
  case some token =>
    have ha := authorize_of_prepare rfl hp
    have ha' := authorize_of_prepare rfl hp'
    rw [hu] at ha'
    unfold authorize at ha ha'
    cases hs : Authority.credentials? r.url.authority <;> rw [hs] at ha ha'
    case none =>
      have hb := hc.authorization
      have hb' := hc'.authorization
      rw [Except.ok.inj ha] at hb
      rw [Except.ok.inj ha'] at hb'
      rw [authorizes_bearer hb, Option.map_some, authorizes_bearer hb']
      exact decide_eq_decide.mpr hρ.injective.eq_iff
    case some c =>
      cases hv : c.header <;> simp only [hv, Except.ok.injEq, reduceCtorEq] at ha ha'
      case ok value =>
        have ⟨rest, hr⟩ := header_eq_ok hv
        have hb {headers sent : Headers} (h : Headers.put "Authorization" value headers = sent) :
            Headers.find? sent "Authorization" = some ("Basic " ++ rest) := by
          rw [← h, Headers.find?_put_self, hr]
        rw [authorizes_basic (hb ha), Option.map_some, authorizes_basic (hb ha')]

end Request

namespace Service

-- A service that has the renamed token, and has received like requests.
structure Renamed (ρ : String → String) (s s' : Service) : Prop where
  token     : s'.token = s.token.map ρ
  stack     : s'.stack = s.stack
  record    : List.Forall₂ Request.Alike s.record s'.record
  queue     : s'.queue = s.queue
  documents : s'.documents = s.documents

variable {ρ : String → String} {s s' : Service} {r r' : Request}

theorem answer_alike {token token' : Option String} (hr : r.Alike r')
    (ha : authorizes token' r' = authorizes token r) (stack : Stack) (documents : Documents) :
    answer token' stack r' documents = answer token stack r documents := by
  have hq : parameter? r' "query" = parameter? r "query" := by
    rw [parameter?, Request.parameters, hr.url]
    rfl
  have hm : answerMutate stack r' documents = answerMutate stack r documents := by
    have hb : bodyJson stack r' "\x7b\x7d" = bodyJson stack r "\x7b\x7d" := by
      rw [bodyJson, Request.bodyText, hr.body]
      rfl
    rw [answerMutate, hb]
    rfl
  rw [answer, ha, hr.url, hr.method, hq, hm]
  rfl

theorem Renamed.send (hs : s.Renamed ρ s') (hr : r.Alike r')
    (ha : authorizes s'.token r' = authorizes s.token r) :
    (s'.send r').2 = (s.send r).2 ∧ Renamed ρ (s.send r).1 (s'.send r').1 := by
  have hc : List.Forall₂ Request.Alike (s.record ++ [r]) (s'.record ++ [r']) :=
    List.rel_append hs.record <| .cons hr .nil
  cases hq : s.queue
  case nil =>
    rw [send_of_queue_nil hq, send_of_queue_nil (hs.queue.trans hq), hs.documents,
      hs.stack, answer_alike hr ha]
    exact ⟨rfl, hs.token, rfl, hc, hs.queue, rfl⟩
  case cons =>
    rw [send_of_queue_cons hq, send_of_queue_cons (hs.queue.trans hq)]
    exact ⟨rfl, hs.token, hs.stack, hc, rfl, hs.documents⟩

end Service

end DocStore
