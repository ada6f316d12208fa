import DocStore.Client
import DocStore.Proofs.Request

namespace DocStore

namespace Headers

structure Carry (headers : Headers) (σ : Settings) : Prop where
  contentType   : find? headers "Content-Type" = some "application/json"
  authorization : find? headers "Authorization" = some ("Bearer " ++ σ.token)

theorem sameName_authorization_contentType : sameName "Authorization" "Content-Type" = false := by
  decide +kernel

theorem find?_put_authorization (headers : Headers) (value : String) :
    find? (put "Authorization" value headers) "Content-Type" = find? headers "Content-Type" :=
  find?_put_of_not_sameName headers value sameName_authorization_contentType

theorem update_headers (headers : Headers) (σ : Settings) :
    update headers σ.headers =
      put "Authorization" ("Bearer " ++ σ.token) (put "Content-Type" "application/json" headers) :=
  rfl

theorem carry_update (headers : Headers) (σ : Settings) : Carry (update headers σ.headers) σ where
  contentType := by rw [update_headers, find?_put_authorization, find?_put_self]
  authorization := by rw [update_headers, find?_put_self]

-- Why headers cannot be sent, if they cannot.
def fault? : Headers → Option Fault
  | [] => none
  | (name, value) :: rest =>
    if isName name then if isValue value then fault? rest else some (.value value)
    else some (.name name)

theorem fault?_put {headers : Headers} {name value : String} (hn : isName name = true)
    (hv : isValue value = true) (h : fault? headers = none) :
    fault? (put name value headers) = none := by
  induction headers
  case nil => simp [put, fault?, hn, hv]
  case cons header headers hi =>
    have hr : isName header.1 = true ∧ isValue header.2 = true ∧ fault? headers = none := by
      rw [fault?] at h
      cases ha : isName header.1 <;> cases hb : isValue header.2 <;> simp_all
    unfold put
    split
    case isTrue => simp [fault?, hn, hv, hr]
    case isFalse => simp [fault?, hr, hi hr.right.right]

theorem checked_given (headers : Headers) :
    checked headers.given =
      match fault? headers with
      | none => .ok headers
      | some fault => .error fault := by
  induction headers
  case nil => rfl
  case cons header headers hi =>
    have hg : given (header :: headers) = (header.1, .text header.2) :: given headers := rfl
    have hv : valueOf header.1 (.text header.2) =
        if isValue header.2 then .ok header.2 else .error (.value header.2) := rfl
    rw [hg, checked, hv, hi, fault?]
    cases isName header.1 <;> cases isValue header.2 <;> cases fault? headers <;> rfl

end Headers

namespace Request

variable {d : Draft} {r : Request} {headers : Headers}

theorem supported?_eq_ok {address : Address} {u : Url} (h : address.supported? = .ok u) :
    address = .url u ∧ u.isSupported = true := by
  cases address
  case url v =>
    rw [Address.supported?] at h
    split at h
    case isTrue hs =>
      cases h
      exact ⟨rfl, hs⟩
    case isFalse => cases h
  case foreign => cases h

-- A request goes to the normal form of the address that it was made for, with the headers that go
-- out to it, and the address is one of the web.
theorem prepare_eq_ok (h : prepare d = .ok r) :
    Address.ofText d.address d.parameters = .ok (.url r.url) ∧
      outgoing d.headers (.url r.url) = .ok r.headers ∧ r.url.isSupported = true := by
  cases prepared_iff.mpr h
  case sent address headers u _ ha ho hs =>
    obtain ⟨rfl, hw⟩ := supported?_eq_ok hs
    exact ⟨ha, ho, hw⟩

theorem outgoing_given (headers : Headers) (address : Address) :
    outgoing headers.given address =
      match headers.fault? with
      | some fault => .error (.header fault)
      | none =>
        match Authority.fault? address.authority with
        | some fault => .error (.authority fault)
        | none => authorize headers address.authority := by
  rw [outgoing, Headers.checked_given]
  cases headers.fault? <;> rfl

-- The headers of a request are those of the session, unless there are credentials in its address.
theorem authorize_of_prepare (hd : d.headers = headers.given) (h : prepare d = .ok r) :
    authorize headers r.url.authority = .ok r.headers := by
  have ho := (prepare_eq_ok h).right.left
  rw [hd, outgoing_given] at ho
  split at ho
  case h_1 => cases ho
  case h_2 =>
    split at ho
    case h_1 => cases ho
    case h_2 => exact ho

theorem header_eq_ok {c : Credentials} {value : String} (h : c.header = .ok value) :
    ∃ rest, value = "Basic " ++ rest := by
  unfold Credentials.header at h
  cases hu : Credentials.encode c.user
  case error => simp [hu, bind, Except.bind] at h
  case ok user =>
    cases hp : Credentials.encode c.password
    case error => simp [hu, hp, bind, Except.bind] at h
    case ok password =>
      simp only [hu, hp, bind, Except.bind, pure, Except.pure, Except.ok.injEq] at h
      exact ⟨_, h.symm⟩

theorem authorize_eq_ok {authority : List Char} {sent : Headers}
    (h : authorize headers authority = .ok sent) :
    Authority.credentials? authority = none ∧ sent = headers ∨
      ∃ value, sent = Headers.put "Authorization" ("Basic " ++ value) headers := by
  unfold authorize at h
  split at h
  case h_1 hc =>
    cases h
    exact .inl ⟨hc, rfl⟩
  case h_2 c _ =>
    split at h
    case h_1 => cases h
    case h_2 hv =>
      cases h
      obtain ⟨rest, rfl⟩ := header_eq_ok hv
      exact .inr ⟨rest, rfl⟩

end Request

namespace Client

-- Settings and session of a client that belong together.
def IsOwn (c : Client) : Prop :=
  ∀ σ headers, c.settings = some σ → c.session = some headers → headers.Carry σ

theorem isOwn_of_settings_none {c : Client} (h : c.settings = none) : c.IsOwn := by
  intro σ headers hσ
  cases h.symm.trans hσ

theorem start_of_error {c : Client} {issues : List Settings.Issue}
    (h : Settings.ofProperties c.properties = .error issues) : c.start.1 = c := by
  rw [start, h]

theorem start_of_ok {c : Client} {σ : Settings}
    (h : Settings.ofProperties c.properties = .ok σ) :
    c.start.1 = { c with
      session  := some (Headers.update (c.session.getD Headers.standard) σ.headers)
      settings := some σ } := by
  rw [start, h]

-- Whatever session a start finds, it comes to carry what the settings ask for.
theorem IsOwn.start {c : Client} (hc : c.IsOwn) : c.start.1.IsOwn := by
  cases hp : Settings.ofProperties c.properties
  case error => rwa [start_of_error hp]
  case ok σ =>
    rw [start_of_ok hp]
    rintro _ _ ⟨⟩ ⟨⟩
    exact Headers.carry_update ..

theorem IsOwn.stop (c : Client) : c.stop.IsOwn := by
  rintro _ _ _ ⟨⟩

end Client

end DocStore
