import DocStore.Proofs.Entries.Alter
import DocStore.Proofs.Query.Fields
import DocStore.Proofs.Service.Search

namespace DocStore

namespace Document

variable {d : Document} {name : String} {v : Json}

theorem mem_of_field? (h : d.field? name = some v) : (Key.text name, v) ∈ d := by
  have ⟨⟨key, _⟩, hm, hk, hv⟩ := Entries.exists_mem_of_get? h
  cases Key.text_beq.mp hk
  exact hv ▸ hm

theorem forall_mem_toMembers {p : JsonText × Json → Prop} :
    (∀ member ∈ d.toMembers, p member) ↔ ∀ e ∈ d, p (e.1.name, e.2) := by
  rw [toMembers, List.forall_mem_map]

theorem isCarried_iff : d.toJson.isCarried = true ↔
    (d.toMembers.map Prod.fst).Nodup ∧
      ∀ e ∈ d, e.1.name.isUnpaired = true ∧ e.2.isCarried = true := by
  rw [toJson, Json.isCarried, Json.isCarriedWith, Bool.and_eq_true, decide_eq_true_eq,
    Json.areCarriedMembersWith_iff, forall_mem_toMembers]
  exact Iff.rfl

theorem isFloatFree_toJson_iff :
    d.toJson.isFloatFree = true ↔ ∀ e ∈ d, e.2.isFloatFree = true := by
  rw [toJson, Json.isFloatFree, Json.areFloatFreeMembers_iff, forall_mem_toMembers]

theorem tooLong?_toJson_eq_none_iff :
    d.toJson.tooLong? = none ↔ ∀ e ∈ d, e.2.tooLong? = none := by
  rw [toJson, Json.tooLong?, Json.membersTooLong?_eq_none_iff, forall_mem_toMembers]

theorem copyFrames_toJson_le_iff {n : Nat} :
    d.toJson.copyFrames ≤ n + 2 ↔ ∀ e ∈ d, e.2.copyFrames ≤ n := by
  rw [toJson, Json.copyFrames, Nat.add_le_add_iff_right, Json.membersCopyFrames_le_iff,
    forall_mem_toMembers]

-- Whether there is room to copy a row that has the members of a document.
def IsShallow (stack : Stack) (d : Document) : Prop :=
  ∀ e ∈ d, e.2.copyFrames + 4 ≤ stack.frames

instance (stack : Stack) (d : Document) : Decidable (d.IsShallow stack) :=
  inferInstanceAs <| Decidable (∀ e ∈ d, e.2.copyFrames + 4 ≤ stack.frames)

-- Documents can be copied where there is room enough, however much that is.
theorem exists_isShallow (documents : Documents) :
    ∃ enough, ∀ stack : Stack, enough ≤ stack.frames → ∀ e ∈ documents, e.2.IsShallow stack := by
  refine ⟨Json.itemsCopyFrames (documents.map fun e => e.2.toJson) + 4, fun stack hs e he => ?_⟩
  have hd := Json.itemsCopyFrames_le_iff.mp (Nat.le_refl _) _ <|
    List.mem_map_of_mem (f := fun e : Key × Document => e.2.toJson) he
  have hm := copyFrames_toJson_le_iff.mp <| Nat.le_trans hd <| Nat.le_add_right _ 2
  exact fun m hm' => Nat.le_trans (Nat.add_le_add_right (hm m hm') 4) hs

end Document

namespace Selection

-- Documents in the order of their ids, those of one id in the order that they had.
structure IsOrdered (ds ordered : List Document) : Prop where
  perm   : ordered.Perm ds
  sorted : ordered.Pairwise fun a b => idOf a ≤ idOf b
  stable : ∀ id, ordered.filter (idOf · = id) = ds.filter (idOf · = id)

theorem isOrdered_sortById (ds : List Document) : IsOrdered ds (sortById ds) where
  perm   := sortById_perm ds
  sorted := pairwise_sortById ds
  stable id := by
    have hi : ∀ d ∈ ds.filter (idOf · = id), idOf d = id := by simp
    have hp : (ds.filter (idOf · = id)).Pairwise fun a b => decide (idOf a ≤ idOf b) = true := by
      refine List.pairwise_of_forall_mem_list fun a ha b hb => ?_
      simpa [hi a ha, hi b hb] using JsonText.le_refl id
    -- What is in order already is not taken apart.
    have hs : (ds.filter (idOf · = id)).Sublist (sortById ds) :=
      List.sublist_mergeSort (by simpa using fun _ _ _ => JsonText.le_trans)
        (by simpa using fun _ _ => JsonText.le_total _ _) hp List.filter_sublist
    have hf := hs.filter (idOf · = id)
    simp only [List.filter_filter, Bool.and_self] at hf
    exact (hf.eq_of_length ((sortById_perm ds).filter _).length_eq.symm).symm

-- The fields of a document that are asked for; without any names all are.
def rowOf (names : List String) (d : Document) : Document :=
  if names = [] then d else project names d

-- The row that comes back of a document. Of the names in a list not all are single names to the
-- service, which divides their text at the commas.
def returned (names : List String) (d : Document) : Document :=
  match projectionOf names with
  | some (c :: cs) => project (fieldNames (c :: cs)) d
  | _ => d

variable {q : Selection} {names : List String} {d : Document}

theorem shape_eq (hq : q.fields = projectionOf names) : q.shape = returned names := by
  funext d
  rw [shape, hq]
  rfl

theorem returned_eq (h : ∀ name ∈ names, name ≠ "" ∧ ',' ∉ name.toList) :
    returned names = rowOf names := by
  funext d
  rw [returned, projectionOf, rowOf]
  by_cases hn : names = []
  case pos => simp [hn]
  case neg =>
    have hf := fieldNames_of_single h
    rw [if_neg (by simpa using hn), if_neg hn]
    generalize (",".intercalate names).toList = fields at hf
    cases fields
    case nil => exact absurd hf.symm hn
    case cons => exact congrArg (project · d) hf

theorem returned_eq_project (h₁ : names ≠ []) (h₂ : names ≠ [""]) :
    returned names = project (fieldNames (",".intercalate names).toList) := by
  obtain ⟨c, cs, hc, hp⟩ := exists_projectionOf h₁ h₂
  funext d
  rw [returned, hp, hc]

def picked (names : List String) (d : Document) : Entries JsonText Json :=
  Entries.ofList <| names.filterMap fun name => (d.field? name).map (JsonText.plain name, ·)

theorem project_eq (names : List String) (d : Document) :
    project names d = Document.ofMembers (picked names d) := by
  have hk (a b : JsonText) : (Key.text a == .text b) = (a == b) := by
    rw [Bool.eq_iff_iff, Key.text_beq, Key.text.injEq, beq_iff_eq]
    exact eq_comm
  have he : names.filterMap (fun name => (d.field? name).map (Key.text name, ·)) =
      (names.filterMap fun name => (d.field? name).map (JsonText.plain name, ·)).map
        (Prod.map Key.text fun v => v) := by
    simp [List.map_filterMap, Function.comp_def]
  rw [project, he, Entries.ofList_map _ hk]
  rfl

theorem toMembers_project (names : List String) (d : Document) :
    (project names d).toMembers = picked names d := by
  rw [project_eq, Document.toMembers_ofMembers]

theorem get?_picked (names : List String) (d : Document) (name : String) :
    (picked names d).get? (.plain name) = if name ∈ names then d.field? name else none :=
  Entries.get?_ofList_filterMap (fun _ _ h => JsonText.plain.inj h) d.field? names name

theorem forall_mem_project {p : Key × Json → Prop} :
    (∀ e ∈ project names d, p e) ↔
      ∀ name ∈ names, ∀ v, d.field? name = some v → p (.text name, v) := by
  rw [project_eq, Document.ofMembers, List.forall_mem_map]
  constructor
  case mp =>
    intro h name hn v hv
    refine h (name, v) <| Entries.mem_of_get?_eq_some ?_
    rw [get?_picked, if_pos hn, hv]
  case mpr =>
    intro h e he
    rcases Entries.mem_update he with he | he
    case inl => cases he
    case inr =>
      obtain ⟨name, hn, he⟩ := List.mem_filterMap.mp he
      obtain ⟨v, hv, he⟩ := Option.map_eq_some_iff.mp he
      exact he ▸ h name hn v hv

-- A row is carried if its document is.
theorem isCarried_project (h : d.toJson.isCarried = true) :
    (project names d).toJson.isCarried = true := by
  rw [Document.isCarried_iff, toMembers_project, forall_mem_project]
  refine ⟨Entries.nodup_ofList _, fun name _ v hv => ⟨JsonText.isUnpaired_plain name, ?_⟩⟩
  exact ((Document.isCarried_iff.mp h).right _ <| Document.mem_of_field? hv).right

theorem isCarried_returned (h : d.toJson.isCarried = true) :
    (returned names d).toJson.isCarried = true := by
  unfold returned
  split
  case h_1 => exact isCarried_project h
  case h_2 => exact h

theorem forall_mem_returned {p : Json → Prop} (h : ∀ e ∈ d, p e.2) :
    ∀ e ∈ returned names d, p e.2 := by
  unfold returned
  split
  case h_1 => exact forall_mem_project.mpr fun _ _ _ hv => h _ <| Document.mem_of_field? hv
  case h_2 => exact h

theorem isFloatFree_returned (h : d.toJson.isFloatFree = true) :
    (returned names d).toJson.isFloatFree = true :=
  Document.isFloatFree_toJson_iff.mpr <|
    @forall_mem_returned _ _ (·.isFloatFree = true) <| Document.isFloatFree_toJson_iff.mp h

theorem tooLong?_returned (h : d.toJson.tooLong? = none) :
    (returned names d).toJson.tooLong? = none :=
  Document.tooLong?_toJson_eq_none_iff.mpr <|
    @forall_mem_returned _ _ (·.tooLong? = none) <| Document.tooLong?_toJson_eq_none_iff.mp h

theorem isShallow_returned {stack : Stack} (h : d.IsShallow stack) :
    (returned names d).IsShallow stack :=
  @forall_mem_returned _ _ (·.copyFrames + 4 ≤ stack.frames) h

theorem copied_cases (stack : Stack) (rows : List Document) :
    ((∀ d ∈ rows, d.IsShallow stack) → copied stack rows = .ok rows) ∧
    (¬(∀ d ∈ rows, d.IsShallow stack) → copied stack rows = .error .rowsTooDeep) := by
  obtain ⟨n, hn⟩ : ∃ n, stack.frames = n + 4 :=
    Nat.exists_eq_add_of_le' <| Nat.le_trans (by decide) stack.ample
  have hr : (∀ d ∈ rows, d.IsShallow stack) ↔
      (Json.array (rows.map Document.toJson)).copyFrames ≤ stack.frames := by
    simp [Json.copyFrames, hn, Json.itemsCopyFrames_le_iff, Document.copyFrames_toJson_le_iff,
      Document.IsShallow]
  rw [copied, hr]
  exact ⟨fun h => if_neg (Nat.not_lt.mpr h), fun h => if_pos (Nat.lt_of_not_le h)⟩

-- Rows that were copied have room to be written, and to be read.
theorem depth_of_copied {stack : Stack} {rows rows' : List Document}
    (h : copied stack rows = .ok rows') :
    (Json.array (rows'.map Document.toJson)).depth + 1 ≤ stack.room := by
  unfold copied at h
  split at h
  case isTrue => cases h
  case isFalse hd =>
    cases h
    have hb := (Json.copyFrames_bounds (.array (rows.map Document.toJson))).left
    have hs := stack.ample
    rw [Stack.room]
    omega

theorem depth_of_run {stack : Stack} {documents : Documents} {rows : List Document}
    (h : q.run stack documents = .ok rows) :
    (Json.array (rows.map Document.toJson)).depth + 1 ≤ stack.room := by
  rw [run] at h
  cases hf : q.found documents <;> rw [hf] at h
  case error => cases h
  case ok => exact depth_of_copied h

def matching (type start : String) (documents : Documents) : List Document :=
  (documents.map Prod.snd).filter fun d =>
    (d.field? "_type").bind Json.string? = some type && .plain start ≤ idOf d

def window (type start : String) (n : Nat) (documents : Documents) : List Document :=
  (sortById (matching type start documents)).take n

section

variable {type start : String} {n : Nat} {documents : Documents}

theorem mem_of_mem_window (h : d ∈ window type start n documents) : ∃ e ∈ documents, e.2 = d := by
  have hm := (sortById_perm _).mem_iff.mp <| List.mem_of_mem_take h
  simpa using (List.mem_filter.mp hm).left

theorem isShallow_window {stack : Stack} (h : ∀ e ∈ documents, e.2.IsShallow stack) :
    ∀ d ∈ window type start n documents, (returned names d).IsShallow stack := by
  intro d hd
  have ⟨e, he, hv⟩ := mem_of_mem_window hd
  exact isShallow_returned <| hv ▸ h e he

-- A query for a window is answered with its rows, if they can be copied.
theorem run_window (stack : Stack) (hc : q.comparison = .atLeast) (hl : q.limit? = .ok (some n))
    (hq : q.fields = projectionOf names) (hd : ∀ e ∈ documents, e.2.IsNamed) :
    q.run stack documents =
      copied stack ((window q.typeText q.idText n documents).map (returned names)) := by
  have hf : ∀ d ∈ documents.map Prod.snd, d.IsNamed := by
    simpa using fun d key he => hd (key, d) he
  have ha : (documents.map Prod.snd).filter q.admits = matching q.typeText q.idText documents := by
    refine List.filter_congr fun d _ => ?_
    rw [admits, hc]
    rfl
  rw [run, found, filter_eq hf, hc, hl, shape_eq hq, ha]
  rfl

end

end Selection

end DocStore
