import DocStore.Proofs.Client.Ready
import DocStore.Proofs.Url.Plain

namespace DocStore

open Percent Service

-- Settings that make addresses of the web out of words. Only the project and the dataset may be
-- empty.
structure Settings.IsPlain (σ : Settings) : Prop where
  protocol : σ.protocol = "https://" ∨ σ.protocol = "http://"
  project  : ∀ c ∈ σ.project.toList, isWordChar c = true
  host     : Host.IsPlain σ.host.toList
  version  : σ.version ≠ "" ∧ ∀ c ∈ σ.version.toList, isWordChar c = true
  dataset  : ∀ c ∈ σ.dataset.toList, isWordChar c = true

namespace Settings

instance (σ : Settings) : Decidable σ.IsPlain :=
  decidable_of_iff ((σ.protocol = "https://" ∨ σ.protocol = "http://") ∧
    σ.project.toList.all isWordChar ∧ Host.IsPlain σ.host.toList ∧
    (σ.version ≠ "" ∧ σ.version.toList.all isWordChar) ∧ σ.dataset.toList.all isWordChar) <| by
  simp only [List.all_eq_true]
  exact ⟨fun ⟨hp, hj, hh, hv, hd⟩ => ⟨hp, hj, hh, hv, hd⟩,
    fun ⟨hp, hj, hh, hv, hd⟩ => ⟨hp, hj, hh, hv, hd⟩⟩

def address (σ : Settings) : Endpoint → String
  | .query => σ.queryAddress
  | .mutate => σ.mutateAddress

def segments (σ : Settings) (endpoint : Endpoint) : List (List Char) :=
  [σ.version.toList,
    match endpoint with
    | .query => "query".toList
    | .mutate => "mutate".toList,
    σ.dataset.toList]

theorem toList_address (σ : Settings) (endpoint : Endpoint) :
    (σ.address endpoint).toList = σ.origin.toList ++ Url.plainPath (σ.segments endpoint) := by
  cases endpoint <;>
    simp [address, queryAddress, mutateAddress, segments, Url.plainPath, List.intercalate_cons_cons]

namespace IsPlain

variable {σ : Settings} (hσ : σ.IsPlain)
include hσ

theorem host_origin : ∃ scheme host, Url.isWebScheme scheme = true ∧ Host.IsPlain host ∧
    σ.origin.toList = scheme ++ ':' :: '/' :: '/' :: host := by
  have ⟨scheme, hw, hp⟩ : ∃ scheme, Url.isWebScheme scheme = true ∧
      σ.protocol.toList = scheme ++ [':', '/', '/'] := by
    rcases hσ.protocol with hp | hp
    case inl => exact ⟨"https".toList, rfl, hp ▸ rfl⟩
    case inr => exact ⟨"http".toList, rfl, hp ▸ rfl⟩
  by_cases hn : σ.project = ""
  case pos => exact ⟨scheme, _, hw, hσ.host, by simp [origin, hn, hp]⟩
  case neg =>
    refine ⟨scheme, σ.project.toList ++ '.' :: σ.host.toList, hw, ⟨by simp, ?head, ?chars⟩, ?_⟩
    case head =>
      cases hl : σ.project.toList
      case nil => exact absurd (String.toList_eq_nil_iff.mp hl) hn
      case cons c cs =>
        have hc := hσ.project c (hl ▸ List.mem_cons_self)
        rintro ⟨⟩
        revert hc
        decide
    case chars =>
      intro c hc
      rcases List.mem_append.mp hc with hc | hc
      case inl => exact .inl <| hσ.project c hc
      case inr =>
        rcases List.mem_cons.mp hc with rfl | hc
        case inl => exact .inr rfl
        case inr => exact hσ.host.chars c hc
    · simp [origin, hn, hp]

theorem isWordChar_segments (endpoint : Endpoint) :
    ∀ segment ∈ σ.segments endpoint, ∀ c ∈ segment, isWordChar c = true := by
  simp only [segments, List.mem_cons, List.not_mem_nil, or_false, forall_eq_or_imp, forall_eq]
  refine ⟨hσ.version.right, ?_, hσ.dataset⟩
  cases endpoint <;> exact List.all_eq_true.mp (by decide)

theorem endpoint?_segments (endpoint : Endpoint) :
    endpoint? (Url.plainPath (σ.segments endpoint)) = some endpoint := by
  rw [endpoint?, Url.splitOn_plainPath (hσ.isWordChar_segments endpoint)]
  unfold segments
  cases hv : σ.version.toList
  case nil => exact absurd (String.toList_eq_nil_iff.mp hv) hσ.version.left
  case cons => cases endpoint <;> rfl

theorem reaches {headers : Headers} {token : Option String} (hf : headers.fault? = none)
    (ht : ∀ t ∈ token, headers.find? "Authorization" = some ("Bearer " ++ t)) (method : String)
    (endpoint : Endpoint) :
    Client.Reaches headers token method (σ.address endpoint) endpoint := by
  obtain ⟨scheme, host, hw, hh, ho⟩ := hσ.host_origin
  have hs := hσ.isWordChar_segments endpoint
  have ha := σ.toList_address endpoint
  rw [ho] at ha
  have ha : σ.address endpoint =
      String.ofList (Url.plainAddress scheme host (σ.segments endpoint)) := by
    rw [← String.toList_inj, ha, String.toList_ofList, Url.plainAddress]
    simp
  obtain ⟨host', hh', hp⟩ := Request.prepare_plain hw hh (by simp [segments]) hs hf method
  refine ⟨fun hm => ?_, _, ha ▸ hp, ?_, hσ.endpoint?_segments endpoint, ?_⟩
  · rw [ha, String.toList_ofList] at hm
    rcases Url.mem_plainAddress hw hh hs hm with h | h | h <;> revert h <;> decide
  · exact not_mem_of_isUnreserved hh'.isUnreserved (by decide)
  · cases token
    case none => rfl
    case some t => exact decide_eq_true (ht t rfl)

end IsPlain

end Settings

namespace Client

-- A started client with such settings, whose headers can be sent and have the token that the
-- service asks for.
def IsPlain (c : Client) (token : Option String) : Prop :=
  ∃ σ headers, c.settings = some σ ∧ c.session = some headers ∧ σ.IsPlain ∧
    headers.fault? = none ∧ ∀ t ∈ token, headers.find? "Authorization" = some ("Bearer " ++ t)

theorem ready_of_isPlain {c : Client} {token : Option String} (h : c.IsPlain token) :
    c.Ready token :=
  have ⟨σ, headers, hσ, hs, hp, hf, ht⟩ := h
  ⟨σ, headers, hσ, hs, hp.reaches hf ht "GET" .query, hp.reaches hf ht "POST" .mutate⟩

theorem isPlain_start {c : Client} {σ : Settings} {token : Option String}
    (h : Settings.ofProperties c.properties = .ok σ) (hσ : σ.IsPlain)
    (hs : ∀ headers ∈ c.session, headers.fault? = none)
    (hv : Headers.isValue ("Bearer " ++ σ.token) = true) (ht : ∀ t ∈ token, t = σ.token) :
    c.start.1.IsPlain token := by
  rw [start_of_ok h]
  refine ⟨σ, _, rfl, rfl, hσ, ?_, fun t hm => ?_⟩
  · have hf : (c.session.getD Headers.standard).fault? = none := by
      cases hc : c.session
      case none => decide
      case some headers => exact hs headers hc
    rw [Headers.update_headers]
    exact Headers.fault?_put (by decide) hv <| Headers.fault?_put (by decide) (by decide) hf
  · rw [ht t hm]
    exact (Headers.carry_update ..).authorization

theorem isPlain_of_issues {c : Client} {token : Option String}
    (hi : Settings.issues c.properties = []) (hσ : (Settings.assemble c.properties).IsPlain)
    (hs : ∀ headers ∈ c.session, headers.fault? = none)
    (hv : Headers.isValue ("Bearer " ++ (Settings.assemble c.properties).token) = true)
    (ht : ∀ t ∈ token, t = (Settings.assemble c.properties).token) :
    c.start.1.IsPlain token := by
  have hp : Settings.ofProperties c.properties = .ok (Settings.assemble c.properties) := by
    rw [Settings.ofProperties, hi]
  exact isPlain_start hp hσ hs hv ht

end Client

end DocStore
