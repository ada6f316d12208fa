import DocStore.Service.Search
import Mathlib.Data.List.Nodup

namespace DocStore

theorem CodePoint.code_inj {p q : CodePoint} : p.code = q.code ↔ p = q := by
  refine ⟨fun h => ?_, fun h => h ▸ rfl⟩
  have hv (c : Char) : c.toNat < 0xD800 ∨ 0xDFFF < c.toNat ∧ c.toNat < 0x110000 := c.valid
  cases p <;> cases q <;> simp only [code, firstSurrogate] at h
  case char.char => rw [Char.toNat_inj.mp h]
  case char.surrogate c place =>
    have := hv c
    omega
  case surrogate.char place c =>
    have := hv c
    omega
  case surrogate.surrogate => rw [Fin.ext (Nat.add_left_cancel h)]

namespace JsonText

variable {s t u : JsonText}

theorem codes_inj : s.codes = t.codes ↔ s = t := by
  refine ⟨fun h => ?_, fun h => h ▸ rfl⟩
  exact points_inj.mp <| List.map_injective_iff.mpr (fun _ _ => CodePoint.code_inj.mp) h

theorem le_refl (t : JsonText) : t ≤ t :=
  List.le_refl t.codes

theorem le_trans (h : s ≤ t) (h' : t ≤ u) : s ≤ u :=
  List.le_trans h h'

theorem le_total (s t : JsonText) : s ≤ t ∨ t ≤ s :=
  List.le_total s.codes t.codes

theorem le_antisymm (h : s ≤ t) (h' : t ≤ s) : s = t :=
  codes_inj.mp <| List.le_antisymm h h'

end JsonText

namespace Document

-- A document that has texts for its id and its type.
def IsNamed (d : Document) : Prop :=
  ∃ id type, d.field? "_id" = some (.text id) ∧ d.field? "_type" = some (.text type)

end Document

namespace Selection

variable {q : Selection} {ds ds' : List Document}

theorem idOf_eq {d : Document} {id : JsonText} (h : d.field? "_id" = some (.text id)) :
    idOf d = id := by
  rw [idOf, h]

-- Whether a document has the type of a query, and an id that meets its comparison.
def admits (q : Selection) (d : Document) : Bool :=
  (d.field? "_type").bind Json.string? = some q.typeText &&
    q.comparison.admits q.idText (idOf d)

theorem selects_eq {d : Document} (h : d.IsNamed) : q.selects d = .ok (q.admits d) := by
  have ⟨id, type, hi, ht⟩ := h
  by_cases hq : (Json.text type).string? = some q.typeText <;>
    simp [selects, admits, hi, ht, hq, idOf_eq hi, Comparison.holds]

theorem filter_of_selects {p : Document → Bool} (h : ∀ d ∈ ds, q.selects d = .ok (p d)) :
    q.filter ds = .ok (ds.filter p) := by
  induction ds
  case nil => rfl
  case cons d ds hi =>
    simp only [List.mem_cons, forall_eq_or_imp] at h
    cases ha : p d <;> simp [filter, h.left, ha, hi h.right, Except.map]

theorem filter_eq (h : ∀ d ∈ ds, d.IsNamed) : q.filter ds = .ok (ds.filter q.admits) :=
  filter_of_selects fun d hd => selects_eq (h d hd)

theorem filter_sublist {selected : List Document} (h : q.filter ds = .ok selected) :
    selected.Sublist ds := by
  induction ds generalizing selected
  case nil =>
    cases h
    exact .refl _
  case cons d ds hi =>
    unfold filter at h
    split at h
    case h_1 => cases h
    case h_2 =>
      cases hr : q.filter ds <;> rw [hr] at h <;> cases h
      exact (hi hr).cons_cons d
    case h_3 => exact (hi h).cons d

theorem filter_withFields (q : Selection) (fields : Option (List Char)) (ds : List Document) :
    filter { q with fields } ds = q.filter ds := by
  have hs (d : Document) : selects { q with fields } d = q.selects d := rfl
  induction ds
  case nil => rfl
  case cons d ds hi => simp only [filter, hs, hi]

theorem found_withFields (q : Selection) (fields : Option (List Char)) (documents : Documents) :
    found { q with fields } documents = q.found documents := by
  unfold found
  rw [filter_withFields]
  rfl

theorem pairwise_sortById (ds : List Document) :
    (sortById ds).Pairwise fun a b => idOf a ≤ idOf b := by
  have hp := @List.pairwise_mergeSort _ (fun a b => decide (idOf a ≤ idOf b))
    (by simpa using fun _ _ _ => JsonText.le_trans)
    (by simpa using fun _ _ => JsonText.le_total _ _) ds
  simpa [sortById] using hp

theorem sortById_perm (ds : List Document) : (sortById ds).Perm ds :=
  List.mergeSort_perm ..

theorem mem_of_found {documents : Documents} (h : q.found documents = .ok ds) {d : Document}
    (hd : d ∈ ds) : ∃ e ∈ documents, e.2 = d := by
  unfold found at h
  cases hf : q.filter (documents.map Prod.snd) <;> cases hl : q.limit? <;>
    simp only [hf, hl, bind, Except.bind, pure, Except.pure] at h
  case ok.ok selected limit =>
    cases h
    have hm : d ∈ selected := by
      cases hc : q.comparison <;> cases limit <;> simp only [hc] at hd
      case equal.none => exact hd
      case equal.some => exact List.mem_of_mem_take hd
      case atLeast.none => exact (sortById_perm _).mem_iff.mp hd
      case atLeast.some => exact (sortById_perm _).mem_iff.mp <| List.mem_of_mem_take hd
    simpa using (filter_sublist hf).mem hm
  all_goals cases h

-- Where ids are distinct there is one way to put the documents in order.
theorem eq_of_perm (h : ds.Perm ds') (hn : (ds.map idOf).Nodup)
    (hp : ds.Pairwise fun a b => idOf a ≤ idOf b) (hp' : ds'.Pairwise fun a b => idOf a ≤ idOf b) :
    ds = ds' := by
  refine h.eq_of_pairwise (fun a b ha hb hab hba => ?_) hp hp'
  exact List.inj_on_of_nodup_map hn ha (h.mem_iff.mpr hb) (JsonText.le_antisymm hab hba)

theorem sortById_eq_of_perm (h : ds.Perm ds') (hn : (ds.map idOf).Nodup) :
    sortById ds = sortById ds' := by
  have hs : (sortById ds).Perm (sortById ds') :=
    (sortById_perm ds).trans <| h.trans (sortById_perm ds').symm
  have hn : ((sortById ds).map idOf).Nodup := (sortById_perm ds).map idOf |>.nodup_iff.mpr hn
  exact eq_of_perm hs hn (pairwise_sortById ds) (pairwise_sortById ds')

-- What is found under one id is in order already.
theorem filter_eq_of_perm (hc : q.comparison = .equal) (h : ds.Perm ds')
    (hn : (ds.map idOf).Nodup) : ds.filter q.admits = ds'.filter q.admits := by
  have hp (ds : List Document) : (ds.filter q.admits).Pairwise fun a b => idOf a ≤ idOf b := by
    have hi : ∀ d ∈ ds.filter q.admits, idOf d = .plain q.idText := by
      intro d hd
      have ha := (List.mem_filter.mp hd).right
      simp only [admits, hc, Comparison.admits, Bool.and_eq_true, decide_eq_true_eq] at ha
      exact ha.right
    refine List.pairwise_of_forall_mem_list fun a ha b hb => ?_
    rw [hi a ha, hi b hb]
    exact JsonText.le_refl _
  exact eq_of_perm (h.filter _) (hn.sublist <| List.filter_sublist.map _) (hp ds) (hp ds')

-- What a query finds does not depend on the order of the documents.
theorem found_eq_of_perm {documents documents' : Documents} (h : documents.Perm documents')
    (hd : ∀ e ∈ documents, e.2.IsNamed) (hn : (documents.map fun e => idOf e.2).Nodup) :
    q.found documents = q.found documents' := by
  have hs : (documents.map Prod.snd).Perm (documents'.map Prod.snd) := h.map _
  have hds : ∀ d ∈ documents.map Prod.snd, d.IsNamed := by
    simpa using fun d key he => hd (key, d) he
  have hds' : ∀ d ∈ documents'.map Prod.snd, d.IsNamed := fun d hd => hds d (hs.mem_iff.mpr hd)
  have hn : ((documents.map Prod.snd).map idOf).Nodup := by simpa [Function.comp_def] using hn
  have hf : ((documents.map Prod.snd).filter q.admits |>.map idOf).Nodup :=
    hn.sublist <| List.filter_sublist.map _
  unfold found
  rw [filter_eq hds, filter_eq hds']
  cases hc : q.comparison
  case equal => rw [filter_eq_of_perm hc hs hn]
  case atLeast => simp only [bind, Except.bind, sortById_eq_of_perm (hs.filter _) hf]

theorem run_eq_of_perm (stack : Stack) {documents documents' : Documents}
    (h : documents.Perm documents') (hd : ∀ e ∈ documents, e.2.IsNamed)
    (hn : (documents.map fun e => idOf e.2).Nodup) :
    q.run stack documents = q.run stack documents' := by
  rw [run, run, found_eq_of_perm h hd hn]

end Selection

end DocStore
