import DocStore.Proofs.Query.RoundTrip
import DocStore.Proofs.Service.Records

namespace DocStore.Selection

-- The names that a list of names asks for are those that its members ask for.
theorem fieldNames_intercalate (names : List String) :
    fieldNames (",".intercalate names).toList =
      names.flatMap fun name => fieldNames name.toList := by
  by_cases hn : names = []
  case pos =>
    subst hn
    rfl
  case neg =>
    have hs : (",".intercalate names).toList.splitOn ',' =
        names.flatMap fun name => name.toList.splitOn ',' := by
      rw [String.toList_intercalate]
      exact (Text.splitOn_intercalate (by simpa using hn)).trans (List.flatMap_map ..)
    rw [fieldNames, hs, List.filter_flatMap, List.map_flatMap]
    rfl

theorem of_mem_fieldNames {fields : List Char} {name : String} (h : name ∈ fieldNames fields) :
    name ≠ "" ∧ ',' ∉ name.toList := by
  obtain ⟨part, hp, rfl⟩ := List.mem_map.mp h
  have ⟨hp, hn⟩ := List.mem_filter.mp hp
  exact ⟨by simpa using hn, by simpa using Text.not_mem_of_mem_splitOn hp⟩

theorem fieldNames_single {name : String} (hn : name ≠ "") (hc : ',' ∉ name.toList) :
    fieldNames name.toList = [name] := by
  simp [fieldNames, List.splitOn_eq_singleton hc, hn]

-- Of the names of a list, the projection asks for those that are one name in it.
theorem mem_fieldNames {names : List String} {name : String} (h : name ∈ names) :
    name ∈ fieldNames (",".intercalate names).toList ↔ name ≠ "" ∧ ',' ∉ name.toList where
  mp := of_mem_fieldNames
  mpr := by
    intro ⟨hn, hc⟩
    rw [fieldNames_intercalate, List.mem_flatMap]
    exact ⟨name, h, by simp [fieldNames_single hn hc]⟩

-- Where each name of a list is one, they are the names that the projection asks for.
theorem fieldNames_of_single {names : List String}
    (h : ∀ name ∈ names, name ≠ "" ∧ ',' ∉ name.toList) :
    fieldNames (",".intercalate names).toList = names := by
  have hs : ∀ name ∈ names, fieldNames name.toList = [name] := fun name hm =>
    fieldNames_single (h name hm).left (h name hm).right
  rw [fieldNames_intercalate, List.flatMap_congr hs, List.flatMap_singleton']

-- The order of names, and how often each is in a list, are nothing to what is asked for.
theorem mem_fieldNames_congr {names names' : List String}
    (h : ∀ name, name ∈ names ↔ name ∈ names') (name : String) :
    name ∈ fieldNames (",".intercalate names).toList ↔
      name ∈ fieldNames (",".intercalate names').toList := by
  simp only [fieldNames_intercalate, List.mem_flatMap, h]

def namesOf (names : List String) : List String :=
  if names = [""] then names else names.filter fun name => name ≠ "" ∧ ',' ∉ name.toList

-- Names that come back as they are asked for. An empty one only does so if it is alone.
def AreSingle (names : List String) : Prop :=
  names = [""] ∨ ∀ name ∈ names, name ≠ "" ∧ ',' ∉ name.toList ∧ '\x7d' ∉ name.toList

instance (names : List String) : Decidable (AreSingle names) :=
  inferInstanceAs <| Decidable (_ ∨ ∀ name ∈ names, _)

namespace AreSingle

variable {names : List String} (h : AreSingle names)
include h

theorem not_hasBrace : ¬HasBrace names := by
  rintro ⟨name, hm, hb⟩
  rcases h with rfl | h
  case inl => simp_all
  case inr => exact (h name hm).right.right hb

theorem namesOf_eq : namesOf names = names := by
  rcases h with rfl | h
  case inl => rfl
  case inr =>
    have hf : names.filter (fun name => name ≠ "" ∧ ',' ∉ name.toList) = names :=
      List.filter_eq_self.mpr fun name hm =>
        decide_eq_true ⟨(h name hm).left, (h name hm).right.left⟩
    rw [namesOf, hf, ite_self]

end AreSingle

-- The text of a list of names is empty for two lists only.
theorem exists_projectionOf {names : List String} (h₁ : names ≠ []) (h₂ : names ≠ [""]) :
    ∃ c cs, (",".intercalate names).toList = c :: cs ∧ projectionOf names = some (c :: cs) := by
  have hp : projectionOf names = some (",".intercalate names).toList := by
    rw [projectionOf, if_neg (by simpa using h₁)]
  cases hc : (",".intercalate names).toList
  case cons c cs => exact ⟨c, cs, rfl, hc ▸ hp⟩
  case nil =>
    rw [String.toList_intercalate] at hc
    rcases names with _ | ⟨name, _ | ⟨next, names⟩⟩
    · exact absurd rfl h₁
    · exact absurd (by simpa using hc) h₂
    · simp [List.intercalate_cons_cons] at hc

theorem pick_pick (asked names : List String) (r : Record) :
    (r.pick asked).pick names = r.pick (names.filter (· ∈ asked)) := by
  have he (name : String) : ((r.pick asked).get? name).map (name, ·) =
      if name ∈ asked then (r.get? name).map (name, ·) else none := by
    rw [Record.get?_pick]
    split <;> rfl
  change Entries.ofList (names.filterMap fun name => ((r.pick asked).get? name).map (name, ·)) =
    Entries.ofList ((names.filter (· ∈ asked)).filterMap fun name => (r.get? name).map (name, ·))
  simp only [he, List.filterMap_filter, decide_eq_true_eq]

-- What a client picks from a row is what it would pick from the record, but for names that the
-- projection does not ask for.
theorem pick_shapeRecord {q : Selection} {names : List String} (h : q.fields = projectionOf names)
    (r : Record) : (q.shapeRecord r).pick names = r.pick (namesOf names) := by
  by_cases hn : names = [] ∨ names = [""]
  case pos =>
    have hs : q.shapeRecord r = r := by
      rw [shapeRecord, h]
      rcases hn with rfl | rfl <;> rfl
    rcases hn with rfl | rfl <;> simp [hs, namesOf]
  case neg =>
    obtain ⟨h₁, h₂⟩ := not_or.mp hn
    obtain ⟨c, cs, hc, hp⟩ := exists_projectionOf h₁ h₂
    have hs : q.shapeRecord r = r.pick (fieldNames (",".intercalate names).toList) := by
      rw [shapeRecord, h, hp, hc]
    have hf : ∀ name ∈ names, decide (name ∈ fieldNames (",".intercalate names).toList) =
        decide (name ≠ "" ∧ ',' ∉ name.toList) := by
      intro name hm
      rw [decide_eq_decide, mem_fieldNames hm]
    rw [hs, pick_pick, List.filter_congr hf, namesOf, if_neg h₂]

end DocStore.Selection
