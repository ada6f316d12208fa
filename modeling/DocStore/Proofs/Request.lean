import DocStore.Proofs.Url
import DocStore.Request

namespace DocStore

namespace Request

def carrying (r : Request) (isBroken : Bool) (query : List Char)
    (parameters : List (String × String)) (body : Option Payload) : Request where
  method  := r.method
  url     := { r.url with query := Url.sendPart isBroken (Url.joinQuery query parameters) }
  headers := r.headers
  body    := body.filter (!·.isEmpty)

-- Faults that are the same to a client, but for what is said about an address.
def Fault.Alike (fault fault' : Fault) : Prop :=
  fault = fault' ∨ fault.isTransport = true ∧ fault'.isTransport = true

inductive Prepared (d : Draft) : Except Fault Request → Prop where
  | authority {fault : Authority.Fault}
    (hf : Authority.fault? (Authority.ofAddress d.address.toList) = some fault) :
    Prepared d (.error (.authority fault))
  | address {fault : Url.Fault}
    (hf : Authority.fault? (Authority.ofAddress d.address.toList) = none)
    (ha : Address.ofText d.address d.parameters = .error fault) :
    Prepared d (.error (.address fault))
  | outgoing {address : Address} {fault : Fault}
    (hf : Authority.fault? (Authority.ofAddress d.address.toList) = none)
    (ha : Address.ofText d.address d.parameters = .ok address)
    (ho : outgoing d.headers address = .error fault) :
    Prepared d (.error fault)
  | unsupported {address : Address} {headers : Headers} {text : String}
    (hf : Authority.fault? (Authority.ofAddress d.address.toList) = none)
    (ha : Address.ofText d.address d.parameters = .ok address)
    (ho : outgoing d.headers address = .ok headers)
    (hs : address.supported? = .error text) :
    Prepared d (.error (.address (.unknownScheme text)))
  | sent {address : Address} {headers : Headers} {u : Url}
    (hf : Authority.fault? (Authority.ofAddress d.address.toList) = none)
    (ha : Address.ofText d.address d.parameters = .ok address)
    (ho : outgoing d.headers address = .ok headers)
    (hs : address.supported? = .ok u) :
    Prepared d <| .ok {
      method  := String.ofList (Text.upper d.method.toList)
      url     := u
      headers := headers
      body    := d.body.filter (!·.isEmpty) }

theorem prepared_iff {d : Draft} {o : Except Fault Request} : Prepared d o ↔ prepare d = o := by
  unfold prepare
  constructor
  case mp =>
    intro h
    cases h <;> simp only [*]
  case mpr =>
    rintro rfl
    split
    case h_1 hf => exact .authority hf
    case h_2 hf =>
      split
      case h_1 ha => exact .address hf ha
      case h_2 ha =>
        split
        case h_1 ho => exact .outgoing hf ha ho
        case h_2 ho =>
          split
          case h_1 hs => exact .unsupported hf ha ho hs
          case h_2 hs => exact .sent hf ha ho hs

section

variable {d : Draft}

theorem eq_of_prepare {r : Request} (h : prepare d = .ok r) :
    r.method = String.ofList (Text.upper d.method.toList) ∧
      r.body = d.body.filter (!·.isEmpty) := by
  cases prepared_iff.mpr h
  exact ⟨rfl, rfl⟩

theorem method_of_get {r : Request} (hd : d.method = "GET") (h : prepare d = .ok r) :
    r.method = "GET" := by
  rw [(eq_of_prepare h).left, hd]
  decide +kernel

theorem method_of_post {r : Request} (hd : d.method = "POST") (h : prepare d = .ok r) :
    r.method = "POST" := by
  rw [(eq_of_prepare h).left, hd]
  decide +kernel

end

theorem not_mem_dropBlank {c : Char} {s : List Char} (h : c ∉ s) : c ∉ Text.dropBlank s :=
  fun hc => h <| (List.dropWhile_sublist _).mem hc

theorem ofText_eq_ok {address : String} {u : Url}
    (h : Url.normal (String.ofList (Text.dropBlank address.toList)) = .ok u)
    (hf : Address.isForeign (Text.dropBlank address.toList) = false)
    (parameters : List (String × String)) :
    Address.ofText address parameters =
      .ok (.url (Url.sent { u with query := Url.joinQuery u.query parameters })) := by
  simp [Address.ofText, hf, Url.ofText, h, Except.map]

-- The credentials of an address are not in its query.
theorem outgoing_sent (given : Headers.Given) (u : Url) (parameters : List (String × String)) :
    outgoing given (.url (Url.sent { u with query := Url.joinQuery u.query parameters })) =
      outgoing given (.url u.sent) := by
  rw [Url.sent_joinQuery]
  rfl

section

variable (method : String) {address : String} (given : Headers.Given)
  (hf : Authority.fault? (Authority.ofAddress address.toList) = none)
include hf

theorem prepare_foreign (hg : Address.isForeign (Text.dropBlank address.toList) = true) :
    ∃ fault, ∀ parameters body,
      prepare ⟨method, address, parameters, given, body⟩ = .error fault := by
  have ha parameters : Address.ofText address parameters =
      .ok (.foreign (String.ofList (Text.dropBlank address.toList))) := by
    simp [Address.ofText, hg]
  generalize String.ofList (Text.dropBlank address.toList) = text at ha
  cases ho : outgoing given (.foreign text)
  case error fault =>
    exact ⟨fault, fun parameters body => prepared_iff.mp <| .outgoing hf (ha parameters) ho⟩
  case ok headers =>
    have hs : Address.supported? (.foreign text) = .error text := rfl
    exact ⟨_, fun parameters body => prepared_iff.mp <| .unsupported hf (ha parameters) ho hs⟩

-- The case of an address that is taken apart. Its own parts decide whether requests can be sent to
-- it, but if not, then the parameters are in what is said about it.
theorem prepare_url {u : Url}
    (ha : ∀ parameters, Address.ofText address parameters =
      .ok (.url (Url.sent { u with query := Url.joinQuery u.query parameters }))) :
    (∃ fault, ∀ parameters body, ∃ fault', Fault.Alike fault fault' ∧
      prepare ⟨method, address, parameters, given, body⟩ = .error fault') ∨
    Url.isWebScheme u.scheme = true ∧ ∃ headers, ∀ parameters body,
      prepare ⟨method, address, parameters, given, body⟩ =
        .ok (carrying ⟨String.ofList (Text.upper method.toList), u.sent, headers, none⟩
          u.isBroken u.query parameters body) := by
  have ho := outgoing_sent given u
  cases hh : outgoing given (.url u.sent)
  case error fault =>
    exact .inl ⟨fault, fun parameters body => ⟨fault, .inl rfl,
      prepared_iff.mp <| .outgoing hf (ha parameters) <| (ho parameters).trans hh⟩⟩
  case ok headers =>
    by_cases hw : Url.isWebScheme u.scheme = true
    case pos =>
      refine .inr ⟨hw, headers, fun parameters body => ?_⟩
      rw [carrying, ← Url.sent_joinQuery]
      exact prepared_iff.mp <|
        .sent hf (ha parameters) ((ho parameters).trans hh) (if_pos hw)
    case neg =>
      refine .inl ⟨.address (.unknownScheme address), fun parameters body => ?_⟩
      have hs : Address.supported?
          (.url (Url.sent { u with query := Url.joinQuery u.query parameters })) =
          .error (Url.sent { u with query := Url.joinQuery u.query parameters }).text := by
        simp [Address.supported?, Url.isSupported, Url.sent, hw]
      exact ⟨_, .inr ⟨rfl, rfl⟩,
        prepared_iff.mp <| .unsupported hf (ha parameters) ((ho parameters).trans hh) hs⟩

end

-- Only a host that breaks the escapes of its address does anything to parameters.
theorem prepare_cases (method address : String) (given : Headers.Given) :
    (∃ fault, ∀ parameters body, ∃ fault', Fault.Alike fault fault' ∧
      prepare ⟨method, address, parameters, given, body⟩ = .error fault') ∨
    ∃ r isBroken query,
      (∀ parameters body, prepare ⟨method, address, parameters, given, body⟩ =
        .ok (carrying r isBroken query parameters body)) ∧
      r.method = String.ofList (Text.upper method.toList) ∧
      ('?' ∉ address.toList → query = []) ∧
      (isBroken = true → '%' ∈ r.url.host) := by
  cases hf : Authority.fault? (Authority.ofAddress address.toList)
  case some fault =>
    exact .inl ⟨.authority fault, fun parameters body =>
      ⟨_, .inl rfl, prepared_iff.mp <| .authority hf⟩⟩
  case none =>
    cases hg : Address.isForeign (Text.dropBlank address.toList)
    case true =>
      have ⟨fault, h⟩ := prepare_foreign method given hf hg
      exact .inl ⟨fault, fun parameters body => ⟨fault, .inl rfl, h parameters body⟩⟩
    case false =>
      cases hu : Url.normal (String.ofList (Text.dropBlank address.toList))
      case error fault =>
        have ha parameters : Address.ofText address parameters = .error fault := by
          simp [Address.ofText, hg, Url.ofText, hu, Except.map]
        exact .inl ⟨.address fault, fun parameters body =>
          ⟨_, .inl rfl, prepared_iff.mp <| .address hf (ha parameters)⟩⟩
      case ok u =>
        rcases prepare_url method given hf (ofText_eq_ok hu hg) with h | ⟨hw, headers, h⟩
        case inl => exact .inl h
        case inr =>
          refine .inr ⟨_, _, _, h, rfl, fun hq => ?_, fun hb => ?_⟩
          · exact Url.query_normal hu (by simpa using not_mem_dropBlank hq)
          · rw [(Url.tidy_normal hu hw).isBroken_eq] at hb
            have hs : Url.sendPart true u.host = u.sent.host := by simp [Url.sent, hb]
            exact hs ▸ Url.mem_sendPart_of_hasBrokenEscape hb

-- An address of the web whose authority has no fault before and after it was brought into its
-- normal form, and no credentials.
def IsWebAddress (address : String) : Prop :=
  Address.isForeign (Text.dropBlank address.toList) = false ∧
    Authority.fault? (Authority.ofAddress address.toList) = none ∧
    ∃ u, Url.normal (String.ofList (Text.dropBlank address.toList)) = .ok u ∧
      Url.isWebScheme u.scheme = true ∧ Authority.fault? u.sent.authority = none ∧
      Authority.credentials? u.sent.authority = none

instance (address : String) : Decidable (IsWebAddress address) :=
  match h : Url.normal (String.ofList (Text.dropBlank address.toList)) with
  | .ok u =>
    decidable_of_iff (Address.isForeign (Text.dropBlank address.toList) = false ∧
      Authority.fault? (Authority.ofAddress address.toList) = none ∧
      Url.isWebScheme u.scheme = true ∧ Authority.fault? u.sent.authority = none ∧
      Authority.credentials? u.sent.authority = none) (by simp [IsWebAddress, h])
  | .error _ => isFalse (by simp [IsWebAddress, h])

-- Such an address leaves nothing for a rejection but the address as a whole and the headers.
theorem isTransport_of_prepare {d : Draft} (ha : IsWebAddress d.address) {fault : Fault}
    (h : prepare d = .error fault) : fault.isTransport = true := by
  have ⟨hf, ha, u, hu, hw, hs, hc⟩ := ha
  have he := ofText_eq_ok hu hf d.parameters
  have ho := outgoing_sent d.headers u d.parameters
  have hk : ∀ fault, outgoing d.headers (.url u.sent) = .error fault →
      fault.isTransport = true := by
    intro fault h
    unfold outgoing at h
    split at h
    case h_1 =>
      cases h
      rfl
    case h_2 =>
      simp only [Address.authority, hs, authorize, hc] at h
      cases h
  cases prepared_iff.mpr h
  case authority hf' => cases ha.symm.trans hf'
  case address => rfl
  case outgoing ha' ho' =>
    cases he.symm.trans ha'
    exact hk fault (ho.symm.trans ho')
  case unsupported => rfl

end Request

end DocStore
