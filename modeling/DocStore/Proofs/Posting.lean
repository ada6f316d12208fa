import DocStore.Proofs.Client.Lifecycle
import DocStore.Proofs.Scanning

namespace DocStore

namespace FieldInput

-- The text that a value is stored as: bytes are the UTF-8 of theirs, and what is neither a text nor
-- bytes is shown.
inductive IsText : FieldInput → JsonText → Prop
  | text (t : JsonText) : IsText (.text t) t
  | bytes (s : String) : IsText (.bytes (Utf8.encode s.toList)) s
  | other (v : Json) (h : v.isShowable = true) : IsText (.other v h) v.display

theorem toText_eq_ok_iff {value : FieldInput} {t : JsonText} :
    value.toText = .ok t ↔ value.IsText t := by
  constructor
  case mp =>
    intro h
    cases value
    case text =>
      cases h
      exact .text t
    case other =>
      cases h
      exact .other _ _
    case bytes value =>
      rw [toText] at h
      cases hd : Utf8.decode value
      case error => simp [hd, Except.map] at h
      case ok cs =>
        rw [hd] at h
        cases h
        rw [Utf8.decode_eq_ok_iff.mp hd]
        simpa using IsText.bytes (.ofList cs)
  case mpr =>
    intro h
    cases h
    case text => rfl
    case bytes =>
      rw [toText, Utf8.decode_encode, Except.map, String.ofList_toList]
    case other => rfl

theorem IsText.isReadable {value : FieldInput} {t : JsonText} (h : value.IsText t) :
    value.IsReadable := by
  cases h
  case text => trivial
  case bytes s => exact ⟨s.toList, rfl⟩
  case other => trivial

end FieldInput

namespace Mutation

def AreTexts (values : List (JsonText × FieldInput)) (texts : List (JsonText × JsonText)) : Prop :=
  List.Forall₂ (fun value text => text.1 = value.1 ∧ value.2.IsText text.2) values texts

def membersOf (texts : List (JsonText × JsonText)) : Entries JsonText Json :=
  Entries.ofList <| texts.map fun (name, t) => (name, .text t)

theorem AreTexts.readable {values : List (JsonText × FieldInput)}
    {texts : List (JsonText × JsonText)} (h : AreTexts values texts) :
    ∀ e ∈ values, e.2.IsReadable := by
  induction h
  case nil => simp
  case cons he _ hi => exact List.forall_mem_cons.mpr ⟨he.right.isReadable, hi⟩

theorem areTexts_of_fields {values : List (JsonText × FieldInput)}
    {fs : List (JsonText × Json)} (h : fields values = .ok fs) :
    ∃ texts, AreTexts values texts ∧ fs = texts.map fun (name, t) => (name, .text t) := by
  induction values generalizing fs
  case nil =>
    cases h
    exact ⟨[], .nil, rfl⟩
  case cons e values hi =>
    unfold fields at h
    split at h
    case h_1 => cases h
    case h_2 name t ht =>
      cases hf : fields values <;> rw [hf] at h <;> cases h
      obtain ⟨texts, ha, rfl⟩ := hi hf
      exact ⟨(e.1, t) :: texts, .cons ⟨rfl, FieldInput.toText_eq_ok_iff.mp ht⟩ ha, rfl⟩

theorem fields_of_readable {values : List (JsonText × FieldInput)}
    (h : ∀ e ∈ values, e.2.IsReadable) : ∃ fs, fields values = .ok fs := by
  induction values
  case nil => exact ⟨[], rfl⟩
  case cons e values hi =>
    rw [List.forall_mem_cons] at h
    have ⟨t, ht⟩ := FieldInput.toText_of_isReadable h.left
    have ⟨fs, hf⟩ := hi h.right
    exact ⟨(e.1, .text t) :: fs, by simp [fields, ht, hf, Except.map]⟩

-- What is written for a mutation with some texts for its values. A document has its id and its type
-- before its fields, a patch has the fields apart.
def spelled (m : Mutation) (texts : List (JsonText × JsonText)) : Json :=
  let payload : Json := match m.kind with
    | .create _ =>
      .object <| Entries.update [("_id", .text m.id), ("_type", .text m.type)] (membersOf texts)
    | .patch => .object [("id", .text m.id), ("set", .object (membersOf texts))]
    | .delete => .object [("id", .text m.id)]
  .object [("mutations", .array [.object [(m.kind.name, payload)]])]

theorem envelope_payloadOf (m : Mutation) (texts : List (JsonText × JsonText)) :
    envelope m.kind (payloadOf m.kind m.type m.id (membersOf texts)) = m.spelled texts := by
  have ⟨kind, type, id, _⟩ := m
  cases kind <;> rfl

-- A mutation has a body exactly if all its bytes are texts.
theorem payload_cases (m : Mutation) :
    ((∃ e ∈ m.values, ¬e.2.IsReadable) ∧ ∃ e, m.payload = .error e) ∨
    (∀ e ∈ m.values, e.2.IsReadable) ∧ ∃ texts, AreTexts m.values texts ∧
      m.payload = .ok (payloadOf m.kind m.type m.id (membersOf texts)) := by
  rw [payload]
  cases hf : fields m.values
  case error e =>
    refine .inl ⟨?_, e, rfl⟩
    by_contra hn
    push Not at hn
    obtain ⟨_, hf'⟩ := fields_of_readable hn
    cases hf.symm.trans hf'
  case ok fs =>
    obtain ⟨texts, ht, rfl⟩ := areTexts_of_fields hf
    exact .inr ⟨ht.readable, texts, ht, rfl⟩

-- No text of a mutation has a high surrogate right before a low one.
structure AreUnpaired (m : Mutation) (texts : List (JsonText × JsonText)) : Prop where
  id    : m.id.isUnpaired = true
  type  : m.type.isUnpaired = true
  texts : ∀ e ∈ texts, e.1.isUnpaired = true ∧ e.2.isUnpaired = true

theorem isCarried_of_textual {members : Entries JsonText Json}
    (hn : (members.map Prod.fst).Nodup)
    (h : ∀ e ∈ members, e.1.isUnpaired = true ∧ ∃ t, e.2 = .text t ∧ t.isUnpaired = true) :
    (Json.object members).isCarried = true := by
  rw [Json.isCarried, Json.isCarriedWith, Bool.and_eq_true, decide_eq_true_eq,
    Json.areCarriedMembersWith_iff]
  refine ⟨hn, fun e he => ?_⟩
  obtain ⟨hu, t, ht, hv⟩ := h e he
  exact ⟨hu, by rw [ht]; exact hv⟩

theorem isCarried_envelope (kind : MutationKind) (payload : Entries JsonText Json) :
    (envelope kind payload).isCarried = (Json.object payload).isCarried := by
  simp [envelope, Json.isCarried, Json.isCarriedWith, Json.areCarriedWith,
    Json.areCarriedMembersWith, JsonText.isUnpaired_plain]

theorem isCarried_payloadOf {m : Mutation} {texts : List (JsonText × JsonText)}
    (h : m.AreUnpaired texts) :
    (Json.object <| payloadOf m.kind m.type m.id (membersOf texts)).isCarried = true := by
  have hn (s : String) : (JsonText.plain s).isUnpaired = true := JsonText.isUnpaired_plain s
  have hf : ∀ e ∈ membersOf texts, e.1.isUnpaired = true ∧ ∃ t, e.2 = .text t ∧
      t.isUnpaired = true := by
    intro e he
    have he := (Entries.mem_update he).resolve_left List.not_mem_nil
    obtain ⟨text, hm, rfl⟩ := List.mem_map.mp he
    exact ⟨(h.texts text hm).left, _, rfl, (h.texts text hm).right⟩
  cases m.kind
  case create mode =>
    refine isCarried_of_textual (Entries.nodup_update (by simp)) fun e he => ?_
    rcases Entries.mem_update he with he | he
    case inl =>
      rcases List.mem_pair.mp he with rfl | rfl
      case inl => exact ⟨hn "_id", _, rfl, h.id⟩
      case inr => exact ⟨hn "_type", _, rfl, h.type⟩
    case inr => exact hf e he
  case patch =>
    have hs : (Json.object (membersOf texts)).isCarried = true :=
      isCarried_of_textual (Entries.nodup_ofList _) hf
    simp only [Json.isCarried, Json.isCarriedWith, Bool.and_eq_true, decide_eq_true_eq] at hs
    simp [payloadOf, Json.isCarried, Json.isCarriedWith, Json.areCarriedMembersWith, hn, h.id, hs]
  case delete =>
    simp [payloadOf, Json.isCarried, Json.isCarriedWith, Json.areCarriedMembersWith, hn, h.id]

-- What a body says of a mutation, as JSON reads it: a high surrogate and a low one after it become
-- one character, and nothing else is changed.
structure Says (m : Mutation) (texts : List (JsonText × JsonText)) (v : Json) : Prop where
  shown : AreTexts m.values texts
  read  : v = (m.spelled texts).reread
  exact : m.AreUnpaired texts → v = m.spelled texts

theorem says_reread {m : Mutation} {texts : List (JsonText × JsonText)}
    (h : AreTexts m.values texts) : m.Says texts (m.spelled texts).reread where
  shown := h
  read := rfl
  exact hu := by
    refine (Json.rereads_of_isCarried ?_).right.right
    rw [← envelope_payloadOf, isCarried_envelope]
    exact isCarried_payloadOf hu

theorem body_eq_ok_iff {m : Mutation} {text : String} :
    m.body = .ok text ↔
      ∃ payload, m.payload = .ok payload ∧ (envelope m.kind payload).compact = text := by
  rw [body]
  cases m.payload <;> simp [Except.map]

theorem body_of_readable (m : Mutation) (h : ∀ e ∈ m.values, e.2.IsReadable) :
    ∃ texts v text, m.Says texts v ∧ m.body = .ok text ∧
      ∀ stack, Json.read stack text = .ok v := by
  rcases m.payload_cases with ⟨⟨e, he, hn⟩, _⟩ | ⟨_, texts, ht, hp⟩
  case inl => exact absurd (h e he) hn
  case inr =>
    refine ⟨texts, _, _, says_reread ht, body_eq_ok_iff.mpr ⟨_, hp, rfl⟩, fun stack => ?_⟩
    rw [← envelope_payloadOf]
    exact read_envelope hp stack

theorem body_of_unreadable (m : Mutation) (h : ∃ e ∈ m.values, ¬e.2.IsReadable) :
    ∃ e, m.payload = .error e ∧ m.body = .error e := by
  rcases m.payload_cases with ⟨_, e, hp⟩ | ⟨hr, _⟩
  case inl => exact ⟨e, hp, by rw [body, hp]; rfl⟩
  case inr =>
    obtain ⟨e, he, hn⟩ := h
    exact absurd (hr e he) hn

-- All characters of a body are of ASCII.
theorem size_of_body {m : Mutation} {text : String} (h : m.body = .ok text) :
    (Payload.text text).size = text.length := by
  obtain ⟨payload, hp, rfl⟩ := body_eq_ok_iff.mp h
  have hf := (flat_envelope hp default).left
  rw [Payload.size, Utf8.length_encode_of_ascii fun ch hm => ?_, String.length_toList]
  rw [Json.compact, String.toList_ofList] at hm
  have hp := Json.isPrintable_of_mem_print Json.arePrintable_compact _ hf hm
  simp only [Json.isPrintable, Bool.and_eq_true, decide_eq_true_eq, Char.le_def] at hp
  have := UInt32.le_iff_toNat_le.mp hp.right
  exact Nat.lt_of_le_of_lt this (by decide)

end Mutation

namespace Service

theorem stack_send (s : Service) (r : Request) : (s.send r).1.stack = s.stack := by
  cases hq : s.queue
  case nil => rw [send_of_queue_nil hq]
  case cons => rw [send_of_queue_cons hq]

theorem latestBody?_send (s : Service) (r : Request) :
    (s.send r).1.latestBody? = some (bodyJson s.stack r "null") := by
  rw [latestBody?, latest?_send, Option.map_some, stack_send]

end Service

namespace Client

inductive Makes (c : Client) (s : Service) : Mutation → Outcome Status → Prop
  | insert (type id : JsonText) (values : List (JsonText × FieldInput)) :
    Makes c s ⟨.create c.mode, type, id, values⟩ (c.insert s type id values)
  | update (type id : JsonText) (values : List (JsonText × FieldInput)) :
    Makes c s ⟨.patch, type, id, values⟩ (c.update s type id values)
  | delete (type id : JsonText) : Makes c s ⟨.delete, type, id, []⟩ (c.delete s type id)

variable {c : Client} {s : Service} {m : Mutation} {o : Outcome Status}

theorem change_of_makes (h : c.Makes s m o) : c.Change s m o := by
  cases h
  case insert => exact c.insert_spec s ..
  case update => exact c.post_spec s _
  case delete => exact c.post_spec s _

theorem change_of_unreadable (h : Change c s m o) (hu : ∃ e ∈ m.values, ¬e.2.IsReadable) :
    ∃ failure, o = .fail s failure ∧
      (c.settings.isSome = true → failure.kind? = some .invalidValue) := by
  cases h
  case notReady hc => exact ⟨.notReady, rfl, by simp [hc]⟩
  case badBytes e _ => exact ⟨.badBytes e, rfl, fun _ => rfl⟩
  case submitted hp =>
    have ⟨_, he, _⟩ := m.body_of_unreadable hu
    cases hp.symm.trans he

theorem body_of_change (h : Change c s m o) {r : Request}
    (hr : o.service.record = s.record ++ [r]) :
    ∃ text, m.body = .ok text ∧ r.body = some (.text text) ∧ o.service = (s.send r).1 := by
  cases h
  case notReady => exact absurd hr (by simp [Outcome.fail])
  case badBytes => exact absurd hr (by simp [Outcome.fail])
  case submitted σ payload parameters hσ hp =>
    rw [submit, service_andThen] at hr ⊢
    rcases c.service_exchange s "POST" σ.mutateAddress parameters _ with hs | ⟨_, r', hd, hs⟩
    case inl =>
      rw [hs] at hr
      exact absurd hr (by simp)
    case inr =>
      rw [hs, Service.record_send] at hr
      cases List.append_cancel_left hr
      exact ⟨_, Mutation.body_eq_ok_iff.mpr ⟨_, hp, rfl⟩,
        body_of_draft (Mutation.read_envelope hp s.stack) hd, hs⟩

-- A client that is ready sends every change that has a body.
theorem exists_record_of_change (h : Change c s m o) (hc : c.Ready s.token)
    (hv : ∀ e ∈ m.values, e.2.IsReadable) : ∃ r, o.service.record = s.record ++ [r] := by
  obtain ⟨σ, headers, hσ, hs, _, hr⟩ := hc
  cases h
  case notReady hn => cases hσ.symm.trans hn
  case badBytes hn =>
    obtain ⟨_, _, _, _, hb, _⟩ := m.body_of_readable hv
    rw [Mutation.body, hn] at hb
    cases hb
  case submitted parameters hσ' _ =>
    cases hσ.symm.trans hσ'
    obtain ⟨r, _, _, _, _, hx⟩ := exchange_of_reaches hs hr parameters (some _)
    exact ⟨r, by rw [submit, service_andThen, hx, service_answered, Service.record_send]⟩

end Client

open Client (Makes librarian catalogue)

namespace Bench

-- Values of all sorts, under names some of which have to be escaped, for an id that is read back as
-- one character.
def accented : Mutation :=
  ⟨.patch, "t", Client.halves,
    [("\"é", .bytes [0xC3, 0xA9]), ("n", .other (.int 2)), ("", .text "\n")]⟩

def torn : Mutation :=
  ⟨.patch, "t", "k", [("n", .other (.int 2)), ("f", .bytes [0xC3])]⟩

end Bench

end DocStore
