import DocStore.Failure
import Mathlib.Data.List.Nodup

namespace DocStore

namespace Settings

namespace Property

-- What the value of a property has to be.
def Accepts : Property → Json → Prop
  | .host, v => ∃ s : String, v = .text s ∧ s ≠ ""
  | .version, v => ∃ s : String, v = .text s ∧ s ≠ ""
  | .visibility, v => ∃ visibility : Visibility, v = .text visibility.name
  | .insertMode, v => ∃ mode, v = .text (MutationKind.create mode).name
  | _, v => ∃ t, v = .text t

-- What is wrong with a value that a property cannot have.
def Breaks (p : Property) (v : Json) : Problem → Prop
  | .notText => p ≠ .visibility ∧ p ≠ .insertMode ∧ ∀ t, v ≠ .text t
  | .notUnicode => (p = .host ∨ p = .version) ∧ ∃ t : JsonText, v = .text t ∧ t.string? = none
  | .tooShort => (p = .host ∨ p = .version) ∧ v = .text ""
  | .notVisibility => p = .visibility ∧ ∀ visibility : Visibility, v ≠ .text visibility.name
  | .notMutation => p = .insertMode ∧ ∀ kind : MutationKind, v ≠ .text kind.name
  | .notCreating kind =>
    p = .insertMode ∧ kind.carriesDocument = false ∧ v = .text kind.name

end Property

section

variable {v : Json} {problem : Problem}

theorem checkText_eq_some_iff :
    checkText v = some problem ↔ problem = .notText ∧ ∀ t, v ≠ .text t := by
  cases v <;> simp [checkText, eq_comm]

theorem checkNonempty_eq_some_iff :
    checkNonempty v = some problem ↔
      problem = .notText ∧ (∀ t, v ≠ .text t) ∨
      (problem = .notUnicode ∧ ∃ t : JsonText, v = .text t ∧ t.string? = none) ∨
      problem = .tooShort ∧ v = .text "" := by
  cases v
  case text t => cases t <;> simp [checkNonempty, JsonText.string?, eq_comm, and_comm]
  all_goals simp [checkNonempty, eq_comm]

theorem checkNonempty_eq_none_iff :
    checkNonempty v = none ↔ ∃ s : String, v = .text s ∧ s ≠ "" := by
  cases v
  case text t => cases t <;> simp [checkNonempty]
  all_goals simp [checkNonempty]

theorem bind_named?_eq_some_iff {α : Type} {name : α → String} {all : List α}
    (h : ∀ a, named? name all (name a) = some a) {a : α} :
    v.string?.bind (named? name all) = some a ↔ v = .text (name a) := by
  simp [Option.bind_eq_some_iff, named?_eq_some h]

theorem bind_visibility_eq_some_iff {visibility : Visibility} :
    v.string?.bind Visibility.ofName? = some visibility ↔ v = .text visibility.name :=
  bind_named?_eq_some_iff Visibility.ofName?_name

theorem bind_mutationKind_eq_some_iff {kind : MutationKind} :
    v.string?.bind MutationKind.ofName? = some kind ↔ v = .text kind.name :=
  bind_named?_eq_some_iff MutationKind.ofName?_name

theorem checkVisibility_eq_some_iff :
    checkVisibility v = some problem ↔
      problem = .notVisibility ∧ ∀ visibility : Visibility, v ≠ .text visibility.name := by
  unfold checkVisibility
  cases hn : v.string?.bind Visibility.ofName?
  case none =>
    have hv (visibility : Visibility) : v ≠ .text visibility.name := by
      simp [← bind_visibility_eq_some_iff, hn]
    simp [hv, eq_comm]
  case some visibility =>
    have hv := bind_visibility_eq_some_iff.mp hn
    simpa using fun _ => ⟨visibility, hv⟩

theorem checkInsertMode_eq_some_iff :
    checkInsertMode v = some problem ↔
      problem = .notMutation ∧ (∀ kind : MutationKind, v ≠ .text kind.name) ∨
      ∃ kind : MutationKind, problem = .notCreating kind ∧ kind.carriesDocument = false ∧
        v = .text kind.name := by
  unfold checkInsertMode
  cases hn : v.string?.bind MutationKind.ofName?
  case none =>
    have hv (kind : MutationKind) : v ≠ .text kind.name := by
      simp [← bind_mutationKind_eq_some_iff, hn]
    simp [hv, @eq_comm _ problem]
  case some kind =>
    have hv := bind_mutationKind_eq_some_iff.mp hn
    have hk (other : MutationKind) : v = .text other.name ↔ other = kind := by
      rw [← bind_mutationKind_eq_some_iff, hn, Option.some.injEq, eq_comm]
    cases kind <;> simp [hk, MutationKind.carriesDocument, @eq_comm _ problem]

end

namespace Property

variable {p : Property} {v : Json} {problem : Problem}

-- A check finds what is wrong with a value, and finds nothing where nothing is.
theorem check_eq_some_iff : p.check v = some problem ↔ p.Breaks v problem := by
  cases p <;>
    simp only [check, checkText_eq_some_iff, checkNonempty_eq_some_iff,
      checkVisibility_eq_some_iff, checkInsertMode_eq_some_iff] <;>
    cases problem <;> simp [Breaks]

theorem check_eq_none_iff : p.check v = none ↔ p.Accepts v := by
  cases p
  case host => exact checkNonempty_eq_none_iff
  case version => exact checkNonempty_eq_none_iff
  case visibility =>
    simp only [check, Accepts, ← bind_visibility_eq_some_iff, checkVisibility]
    cases v.string?.bind Visibility.ofName? <;> simp
  case insertMode =>
    simp only [check, Accepts, ← bind_mutationKind_eq_some_iff, checkInsertMode]
    rcases v.string?.bind MutationKind.ofName? with _ | _ | _ | _ <;> simp
  all_goals cases v <;> simp [check, checkText, Accepts]

-- Nothing is wrong with a value in two ways.
theorem Breaks.unique {problem' : Problem} (h : p.Breaks v problem) (h' : p.Breaks v problem') :
    problem = problem' :=
  Option.some.inj <| (check_eq_some_iff.mpr h).symm.trans <| check_eq_some_iff.mpr h'

theorem mem_all (p : Property) : p ∈ all := by
  cases p <;> decide

theorem nodup_field_all : (all.map field).Nodup := by
  decide

end Property

def Offends (properties : Entries String Json) (p : Property) : Prop :=
  ∃ v, properties.get? p.key = some v ∧ ¬p.Accepts v

section

variable {properties : Entries String Json} {p : Property} {i : Issue}

theorem issueOf_eq_some_iff :
    issueOf properties p = some i ↔
      i.property = p ∧ ∃ v, properties.get? p.key = some v ∧ p.Breaks v i.problem := by
  obtain ⟨q, problem⟩ := i
  simp only [issueOf, Option.map_eq_some_iff, Option.bind_eq_some_iff, Issue.mk.injEq,
    Property.check_eq_some_iff]
  grind

theorem issueOf_eq_none_iff : issueOf properties p = none ↔ ¬Offends properties p := by
  simp [issueOf, Offends, Property.check_eq_none_iff]

instance : DecidablePred (Offends properties) :=
  fun _ => decidable_of_iff (¬issueOf properties _ = none) <|
    not_iff_comm.mp issueOf_eq_none_iff.symm

variable (properties) in
def offending : List Property :=
  Property.all.filter (Offends properties)

theorem mem_issues_iff :
    i ∈ issues properties ↔
      ∃ v, properties.get? i.property.key = some v ∧ i.property.Breaks v i.problem := by
  simp [issues, issueOf_eq_some_iff, Property.mem_all]

theorem issues_eq_nil_iff : issues properties = [] ↔ ∀ p, ¬Offends properties p := by
  simp [issues, issueOf_eq_none_iff, Property.mem_all]

theorem map_property_issues : (issues properties).map Issue.property = offending properties := by
  have hg p : (issueOf properties p).map Issue.property =
      Option.guard (Offends properties ·) p := by
    cases hi : issueOf properties p
    case none => simp [Option.guard, issueOf_eq_none_iff.mp hi]
    case some i =>
      have ho : Offends properties p := by
        by_contra hn
        simp [issueOf_eq_none_iff.mpr hn] at hi
      simp [Option.guard, ho, (issueOf_eq_some_iff.mp hi).left]
  simp only [issues, offending, List.map_filterMap, hg, List.filterMap_eq_filter]

-- Only the values of the known properties matter, wherever they stand.
theorem ofProperties_congr {properties' : Entries String Json}
    (h : ∀ p : Property, properties'.get? p.key = properties.get? p.key) :
    ofProperties properties' = ofProperties properties := by
  have hi : issues properties' = issues properties :=
    List.filterMap_congr fun p _ => by rw [issueOf, h, issueOf]
  have ha : assemble properties' = assemble properties := by
    simp only [assemble, textOf, visibilityOf, insertModeOf, textOf?, h]
  rw [ofProperties, ofProperties, hi, ha]

theorem exists_ofProperties_eq_ok_iff :
    (∃ σ, ofProperties properties = .ok σ) ↔ ∀ p, ¬Offends properties p := by
  rw [← issues_eq_nil_iff, ofProperties]
  cases issues properties <;> simp

theorem ofProperties_eq_error (h : Offends properties p) :
    ofProperties properties = .error (issues properties) := by
  have hn : issues properties ≠ [] := fun hn => issues_eq_nil_iff.mp hn p h
  unfold ofProperties
  split
  case h_1 he => exact absurd he hn
  case h_2 => rfl

end

-- A report that has one detail for each property with a bad value, which says what is wrong with
-- the value, in the order of the known properties, and counts them in its title.
structure Reports (properties : Entries String Json) (bad : List Issue) : Prop where
  fields  : bad.map (·.detail.field) = (offending properties).map Property.field
  once    : (bad.map (·.detail.field)).Nodup
  breaks  : ∀ i ∈ bad, ∃ v, properties.get? i.property.key = some v ∧
    ∀ problem, i.property.Breaks v problem ↔ problem = i.problem
  kind    : (Failure.configuration bad).kind? = some .configuration
  message : (Failure.configuration bad).message? =
    some ("Invalid Sanity configuration: " ++ (offending properties).length.repr ++
      " validation error" ++ (if (offending properties).length = 1 then "" else "s") ++
      " for SanityConfig")

theorem reports_issues (properties : Entries String Json) :
    Reports properties (issues properties) := by
  have hf : (issues properties).map (·.detail.field) =
      (offending properties).map Property.field := by
    rw [← map_property_issues, List.map_map]
    rfl
  have hn : (issues properties).length = (offending properties).length := by
    rw [← map_property_issues, List.length_map]
  refine ⟨hf, ?once, fun i hi => ?breaks, rfl, ?message⟩
  case once =>
    rw [hf]
    exact Property.nodup_field_all.sublist <| List.filter_sublist.map _
  case breaks =>
    have ⟨v, hv, hb⟩ := mem_issues_iff.mp hi
    exact ⟨v, hv, fun _ => ⟨fun h => h.unique hb, fun h => h ▸ hb⟩⟩
  case message =>
    rw [← hn]
    rfl

-- Properties give settings exactly if each known one that is there has a value that it can have.
-- Otherwise the report names each one that has not, once, and no other. It does not matter where
-- the properties stand, or which unknown ones stand between them.
theorem ofProperties_reports (properties : Entries String Json) :
    ((∃ σ, ofProperties properties = .ok σ) ↔
      ∀ (p : Property) v, properties.get? p.key = some v → p.Accepts v) ∧
    ((∃ (p : Property) (v : Json), properties.get? p.key = some v ∧ ¬p.Accepts v) →
      ∃ bad, ofProperties properties = .error bad ∧ Reports properties bad) ∧
    ∀ properties' : Entries String Json,
      (∀ p : Property, properties'.get? p.key = properties.get? p.key) →
        ofProperties properties' = ofProperties properties := by
  refine ⟨?good, ?bad, fun _ => ofProperties_congr⟩
  case good =>
    rw [exists_ofProperties_eq_ok_iff]
    simp only [Offends, not_exists, not_and, not_not]
  case bad =>
    rintro ⟨p, v, hv, ha⟩
    exact ⟨_, ofProperties_eq_error ⟨v, hv, ha⟩, reports_issues properties⟩

def tangled : Entries String Json :=
  [("sanity.mutation.insert", .text "patch"), ("recordcount", .int 1000),
   ("sanity.api.host", .text ""), ("sanity.dataset", .text "main"), ("sanity.project", .null)]

theorem ofProperties_reports_tangled :
    (∃ (p : Property) (v : Json), tangled.get? p.key = some v ∧ ¬p.Accepts v) ∧
    (∀ p : Property, Entries.get? tangled.reverse p.key = tangled.get? p.key) ∧
    (¬∃ σ, ofProperties tangled = .ok σ) ∧
    (∃ bad, ofProperties tangled.reverse = .error bad ∧
      bad.map (·.detail.field) = ["project", "api_host", "insert_mutation"] ∧
      (Failure.configuration bad).message? =
        some "Invalid Sanity configuration: 3 validation errors for SanityConfig") := by
  have ho : Offends tangled .project := ⟨.null, rfl, nofun⟩
  have hr (p : Property) : Entries.get? tangled.reverse p.key = tangled.get? p.key := by
    cases p <;> rfl
  have hf : offending tangled = [.project, .host, .insertMode] := by decide +kernel
  have ⟨hs, he, hc⟩ := ofProperties_reports tangled
  have ⟨bad, hb, hd⟩ := he ⟨.project, ho⟩
  refine ⟨⟨.project, ho⟩, hr, fun hok => ?_, bad, (hc _ hr).trans hb, ?_, ?_⟩
  · obtain ⟨v, hv, ha⟩ := ho
    exact ha <| hs.mp hok .project v hv
  · rw [hd.fields, hf]
    rfl
  · rw [hd.message, hf]
    rfl

end Settings

end DocStore
