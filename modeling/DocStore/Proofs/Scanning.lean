import DocStore.Proofs.Client.Operations
import DocStore.Proofs.Client.Plain
import DocStore.Proofs.Json.Printed
import DocStore.Proofs.Service.Window
import Mathlib.Data.Option.Basic

namespace DocStore

-- The text that stands for a value in a record: lists and objects are left empty, and a text is as
-- JSON carries it, which makes one character of a high surrogate and a low one right after it.
inductive Json.IsShownAs : Json → JsonText → Prop where
  | text (t : JsonText) : IsShownAs (.text t) t.paired
  | int (n : Int) : IsShownAs (.int n) n.repr
  | true : IsShownAs (.bool true) "true"
  | false : IsShownAs (.bool false) "false"
  | null : IsShownAs .null "null"
  | array (items : List Json) : IsShownAs (.array items) ""
  | object (members : List (JsonText × Json)) : IsShownAs (.object members) ""

-- A record has the fields of a document that are asked for, each once, and no others.
structure Document.IsShownAs (d : Document) (names : List String) (record : Record) : Prop where
  nodup : (record.map Prod.fst).Nodup
  shown : ∀ name, Option.Rel Json.IsShownAs (if name ∈ names then d.field? name else none)
    (record.get? name)

namespace Selection

theorem reread_project (asked : List String) (d : Document) :
    (project asked d).reread = (picked asked d).map (Prod.map (fun name => name) Json.reread) := by
  have hp : ∀ member ∈ picked asked d, Prod.map JsonText.paired Json.reread member =
      Prod.map (fun name => name) Json.reread member := by
    intro member hm
    rcases Entries.mem_update hm with hm | hm
    case inl => cases hm
    case inr =>
      obtain ⟨name, _, he⟩ := List.mem_filterMap.mp hm
      obtain ⟨v, _, rfl⟩ := Option.map_eq_some_iff.mp he
      simp
  have hn : (((picked asked d).map (Prod.map (fun name => name) Json.reread)).map
      Prod.fst).Nodup := by
    rw [List.map_map]
    exact Entries.nodup_ofList _
  rw [Document.reread, toMembers_project, Json.rereadMembers_eq, List.map_congr_left hp,
    Entries.ofList_of_nodup hn]

theorem get?_reread_project (asked : List String) (d : Document) (name : String) :
    (project asked d).reread.get? (.plain name) =
      if name ∈ asked then (d.field? name).map Json.reread else none := by
  rw [reread_project]
  refine (Entries.get?_map Json.reread (fun _ _ => rfl) ..).trans ?_
  rw [get?_picked]
  split <;> rfl

end Selection

namespace Response

variable {names : List String} {d : Document}

theorem isShownAs_valueText {v : Json} (h : v.isFloatFree = true) :
    v.IsShownAs (valueText v.reread) := by
  cases v
  case null => exact .null
  case bool b =>
    cases b
    case true => exact .true
    case false => exact .false
  case int n =>
    have hn : valueText (.int n) = .plain n.repr := congrArg JsonText.plain String.ofList_toList
    exact hn ▸ .int n
  case float => simp [Json.isFloatFree] at h
  case text t => exact .text t
  case array items => exact .array items
  case object members => exact .object members

theorem get?_record (names : List String) (row : Row) (name : String) :
    (record names row).get? name =
      if name ∈ names then (row.get? (.plain name)).map valueText else none := by
  have hm (field : String) : ((row.get? (.plain field)).map fun v => (field, valueText v)) =
      ((row.get? (.plain field)).map valueText).map (field, ·) := by
    rw [Option.map_map]
    rfl
  simp only [record, hm]
  exact Entries.get?_ofList_filterMap (fun _ _ h => h) _ names name

theorem get?_reread_rowOf {name : String} (h : name ∈ names) :
    (Selection.rowOf names d).reread.get? (.plain name) = (d.field? name).map Json.reread := by
  have hn : names ≠ [] := List.ne_nil_of_mem h
  rw [Selection.rowOf, if_neg hn, Selection.get?_reread_project, if_pos h]

theorem isShownAs_record (h : d.toJson.isFloatFree = true) :
    d.IsShownAs names (record names (Selection.rowOf names d).reread) where
  nodup := Entries.nodup_ofList _
  shown name := by
    rw [get?_record]
    split
    case isFalse => exact .none
    case isTrue hn =>
      rw [get?_reread_rowOf hn]
      cases hv : d.field? name
      case none => exact .none
      case some v =>
        have hm := Document.mem_of_field? hv
        exact .some <| isShownAs_valueText <| Document.isFloatFree_toJson_iff.mp h _ hm

end Response

namespace Client

open Selection

-- What comes of the rows that a scan asks for: they are delivered, or one of them has a number that
-- is too long to be written, or there is no room to copy them.
inductive Scanned (stack : Stack) (names : List String) (rows : List Document)
    (into : List Record) : Except Failure Status × List Record → Prop
  | delivered (hs : ∀ row ∈ rows, row.IsShallow stack)
    (ht : ∀ row ∈ rows, row.toJson.tooLong? = none) :
    Scanned stack names rows into
      (.ok .ok, into ++ rows.map fun row => Response.record names row.reread)
  | overlong (hs : ∀ row ∈ rows, row.IsShallow stack)
    (ht : ¬∀ row ∈ rows, row.toJson.tooLong? = none) :
    Scanned stack names rows into (.error (.service (.unwritable .overlong)), into)
  | tooDeep (hs : ¬∀ row ∈ rows, row.IsShallow stack) :
    Scanned stack names rows into (.error (.service .rowsTooDeep), into)

namespace Scanned

variable {stack : Stack} {names : List String} {rows : List Document} {into : List Record}
  {report report' : Except Failure Status × List Record}

theorem ok_iff (h : Scanned stack names rows into report) : report.1 = .ok .ok ↔
    (∀ row ∈ rows, row.IsShallow stack) ∧ ∀ row ∈ rows, row.toJson.tooLong? = none := by
  cases h
  case delivered hs ht => exact iff_of_true rfl ⟨hs, ht⟩
  case overlong ht => exact iff_of_false nofun fun h => ht h.right
  case tooDeep hs => exact iff_of_false nofun fun h => hs h.left

theorem records_of_ok (h : Scanned stack names rows into report) (hr : report.1 = .ok .ok) :
    report.2 = into ++ rows.map fun row => Response.record names row.reread := by
  cases h
  case delivered => rfl
  case overlong => cases hr
  case tooDeep => cases hr

theorem unique (h : Scanned stack names rows into report)
    (h' : Scanned stack names rows into report') : report = report' := by
  cases h <;> cases h' <;> first | rfl | contradiction

end Scanned

variable {c : Client} {s : Service} {n : Nat} {names : List String}

theorem answerQuery_of_range (stack : Stack) {documents : Documents} {type start : String}
    {q : Query} (hr : Query.range type start n names = .ok q)
    (hn : n < Nat.pow 10 Text.digitLimit) (hf : ¬HasBrace names)
    (hd : ∀ e ∈ documents, e.2.IsNamed) :
    Service.answerQuery stack q.text documents =
      (copied stack ((window type start n documents).map (returned names))).map
        (Service.rowsAnswer q.text) := by
  have hp := parse?_range hr
  rw [if_neg hf] at hp
  have hw := @run_window ⟨type.toList, .atLeast, start.toList, some (Nat.toDigits 10 n),
    projectionOf names⟩ names n documents stack rfl (limit?_toDigits hn rfl) rfl hd
  rw [typeText, idText, String.ofList_toList, String.ofList_toList] at hw
  rw [Service.answerQuery, hp]
  exact congrArg (Except.map _) hw

theorem collect_scanned (hc : c.Ready s.token) (hq : s.queue = []) (q : Query)
    {rows : List Document} (hk : ∀ row ∈ rows, row.toJson.isFloatFree = true)
    (ha : Service.answerQuery s.stack q.text s.documents =
      (copied s.stack rows).map (Service.rowsAnswer q.text)) (into : List Record) :
    Scanned s.stack names rows into
      ((collect (c.ask s q.text) into (deliverRecords (some names) into)).1.result,
        (collect (c.ask s q.text) into (deliverRecords (some names) into)).2) := by
  obtain ⟨hs, hs'⟩ := copied_cases s.stack rows
  by_cases hm : ∀ row ∈ rows, row.IsShallow s.stack
  case neg =>
    have hb : (Service.answerQuery s.stack q.text s.documents).bind
        (Service.Answer.response s.stack) = .error .rowsTooDeep := by
      rw [ha, hs' hm]
      rfl
    obtain ⟨_, hx⟩ := ask_of_fault hc hq q.text_ne_empty hb
    simpa [collect, hx, Failure.ofFault] using Scanned.tooDeep hm
  case pos =>
    rw [hs hm] at ha
    obtain ⟨ho, ho'⟩ := Response.finds_rowsAnswer q.text hk (depth_of_copied (hs hm))
    by_cases hl : ∀ row ∈ rows, row.toJson.tooLong? = none
    case pos =>
      obtain ⟨response, hr, hf⟩ := ho hl
      have hx := ask_of_finds hc hq q.text_ne_empty ha hr hf
      simpa [collect, hx, deliverRecords, Function.comp_def] using Scanned.delivered hm hl
    case neg =>
      have hb : (Service.answerQuery s.stack q.text s.documents).bind
          (Service.Answer.response s.stack) = .error (.unwritable .overlong) := by
        rw [ha]
        exact ho' hl
      obtain ⟨_, hx⟩ := ask_of_fault hc hq q.text_ne_empty hb
      simpa [collect, hx, Failure.ofFault] using Scanned.overlong hm hl

theorem scan_of_range (hc : c.Ready s.token) (hq : s.queue = [])
    (hd : ∀ e ∈ s.documents, e.2.IsNamed ∧ e.2.toJson.isFloatFree = true)
    (type start : String) (hn : n < Nat.pow 10 Text.digitLimit) (hf : ¬HasBrace names)
    (into : List Record) :
    Scanned s.stack names ((window type start n s.documents).map (returned names)) into
      ((c.scan s type start n (some names) into).1.result,
        (c.scan s type start n (some names) into).2) := by
  obtain ⟨q, hr, ht⟩ := rangeText_natCast type start hn names
  have ha := answerQuery_of_range s.stack hr hn hf fun e he => (hd e he).left
  have hk : ∀ row ∈ (window type start n s.documents).map (returned names),
      row.toJson.isFloatFree = true := by
    rw [List.forall_mem_map]
    intro d hm
    obtain ⟨e, he, hv⟩ := mem_of_mem_window hm
    exact isFloatFree_returned <| hv ▸ (hd e he).right
  rw [scan_eq, Option.getD_some, ht]
  exact collect_scanned hc hq q hk ha into

-- A scan adds a record for each of the first documents of its type from its start on, in the order
-- of their ids, and those of one id in the order of the dataset, as long as none of them has a
-- number that is too long to be written and enough of the stack is left. Else it may fail, and adds
-- nothing then.
theorem scan_window {documents : Documents}
    (hd : ∀ e ∈ documents, e.2.IsNamed ∧ e.2.toJson.isFloatFree = true) :
    ∃ enough, ∀ (c : Client) (s : Service), s.documents = documents → c.IsPlain s.token →
      s.queue = [] → ∀ (type start : String) (n : Nat) (names : List String) (into : List Record),
      n < Nat.pow 10 Text.digitLimit →
      (∀ name ∈ names, name ≠ "" ∧ ',' ∉ name.toList ∧ '\x7d' ∉ name.toList) →
      ∃ outcome list ordered,
        c.scan s type start n (some names) into = (outcome, list) ∧
        outcome.service.documents = s.documents ∧
        IsOrdered (matching type start s.documents) ordered ∧
        (outcome.result = .ok .ok ∧ (∃ records, list = into ++ records ∧
            records.length = min n (matching type start s.documents).length ∧
            List.Forall₂ (·.IsShownAs names ·) (ordered.take n) records) ∨
          list = into ∧
            ((∃ d ∈ ordered.take n, d.toJson.tooLong? ≠ none) ∧
                outcome.result = .error (.service (.unwritable .overlong)) ∨
              s.stack.frames < enough ∧ outcome.result = .error (.service .rowsTooDeep))) := by
  obtain ⟨enough, he⟩ := Document.exists_isShallow documents
  refine ⟨enough, ?_⟩
  rintro c s rfl hc hq type start n names into hn hf
  have ⟨ho, _⟩ := scan_unchanged c s type start n (some names) into
  have hb : ¬HasBrace names := fun ⟨name, hm, hb⟩ => (hf name hm).right.right hb
  have hw := scan_of_range (ready_of_isPlain hc) hq hd type start hn hb into
  refine ⟨_, _, sortById (matching type start s.documents), rfl, ho, isOrdered_sortById _, ?_⟩
  generalize hr : (_, _) = report at hw
  cases hw
  case delivered =>
    obtain ⟨hr, hl⟩ := Prod.mk.inj hr
    refine .inl ⟨hr, _, hl, ?length, ?shown⟩
    case length =>
      rw [List.length_map, List.length_map, window, List.length_take, (sortById_perm _).length_eq]
    case shown =>
      rw [returned_eq fun name hm => ⟨(hf name hm).left, (hf name hm).right.left⟩,
        List.forall₂_map_right_iff, List.forall₂_map_right_iff]
      refine List.forall₂_same.mpr fun d hm => ?_
      have ⟨e, he, hv⟩ := mem_of_mem_window hm
      exact Response.isShownAs_record <| hv ▸ (hd e he).right
  case overlong ht =>
    obtain ⟨hr, hl⟩ := Prod.mk.inj hr
    refine .inr ⟨hl, .inl ⟨?_, hr⟩⟩
    by_contra hn
    push Not at hn
    exact ht <| List.forall_mem_map.mpr fun d hm => tooLong?_returned (hn d hm)
  case tooDeep hs =>
    obtain ⟨hr, hl⟩ := Prod.mk.inj hr
    refine .inr ⟨hl, .inr ⟨?_, hr⟩⟩
    by_contra hn
    exact hs <| List.forall_mem_map.mpr <| isShallow_window <| he s.stack (Nat.le_of_not_lt hn)

def librarian : Client where
  properties :=
    [("sanity.project", .text "books"), ("sanity.dataset", .text "main"),
      ("sanity.api.auth_token", .text "secret")]

def catalogue : Service where
  token := some "secret"
  documents :=
    [(.text "1", [(.text "_id", .text "b"), (.text "_type", .text "t"), (.text "x", .int (-7))]),
      (.text "2", [(.text "_id", .text "a"), (.text "_type", .text "t"), (.text "y", .null)]),
      (.text "3", [(.text "_id", .text "a"), (.text "_type", .text "t"),
        (.text "x", .array [.bool true])]),
      (.text "4", [(.text "_id", .text "a"), (.text "_type", .text "u")]),
      (.text "5", [(.text "_id", .text "A"), (.text "_type", .text "t")])]

theorem isPlain_librarian : librarian.start.1.IsPlain (some "secret") :=
  isPlain_of_issues (by decide +kernel) (by decide +kernel) (by simp [librarian])
    (by decide +kernel) (by decide +kernel)

theorem scan_window_catalogue :
    librarian.start.1.IsPlain catalogue.token ∧ catalogue.queue = [] ∧
    (∀ e ∈ catalogue.documents, e.2.IsNamed ∧ e.2.toJson.isFloatFree = true) ∧
    2 < Nat.pow 10 Text.digitLimit ∧
    (∀ name ∈ ["x", "_id"], name ≠ "" ∧ ',' ∉ name.toList ∧ '\x7d' ∉ name.toList) ∧
    (matching "t" "a" catalogue.documents).length = 3 ∧
    ∃ enough, ∀ stack : Stack, enough ≤ stack.frames → ∃ outcome records,
      librarian.start.1.scan { catalogue with stack } "t" "a" (2 : Nat) (some ["x", "_id"]) [[]] =
        (outcome, [] :: records) ∧
      outcome.result = .ok .ok ∧ records.length = 2 := by
  have hd : ∀ e ∈ catalogue.documents,
      (e.2.IsNamed ∧ e.2.toJson.isFloatFree = true) ∧ e.2.toJson.tooLong? = none := by
    rw [catalogue]
    simp only [List.forall_mem_cons, List.not_mem_nil, false_implies, implies_true, and_true]
    refine ⟨⟨⟨?_, ?_⟩, ?_⟩, ⟨⟨?_, ?_⟩, ?_⟩, ⟨⟨?_, ?_⟩, ?_⟩, ⟨⟨?_, ?_⟩, ?_⟩, ⟨?_, ?_⟩, ?_⟩
    all_goals first | exact ⟨_, _, rfl, rfl⟩ | decide
  have hn : 2 < Nat.pow 10 Text.digitLimit := by decide +kernel
  have hf : ∀ name ∈ ["x", "_id"], name ≠ "" ∧ ',' ∉ name.toList ∧ '\x7d' ∉ name.toList := by
    decide
  have hl : (matching "t" "a" catalogue.documents).length = 3 := by decide +kernel
  have hx := fun e he => (hd e he).left
  obtain ⟨enough, hw⟩ := scan_window hx
  refine ⟨isPlain_librarian, rfl, hx, hn, hf, hl, enough, fun stack hs => ?_⟩
  obtain ⟨outcome, list, ordered, he, _, ho, h⟩ :=
    hw librarian.start.1 { catalogue with stack } rfl isPlain_librarian rfl "t" "a" 2 _ [[]] hn hf
  rcases h with ⟨hr, records, hk, hc, _⟩ | ⟨_, ⟨⟨d, hm, ht⟩, _⟩ | ⟨hs', _⟩⟩
  case inl =>
    rw [hl] at hc
    exact ⟨outcome, records, he.trans <| congrArg (outcome, ·) hk, hr, hc⟩
  case inr.inl =>
    have hm := (List.mem_filter.mp <| ho.perm.mem_iff.mp <| List.mem_of_mem_take hm).left
    obtain ⟨e, he, rfl⟩ := List.mem_map.mp hm
    exact absurd (hd e he).right ht
  case inr.inr => exact absurd hs (Nat.not_le.mpr hs')

theorem not_isShallow_of_nested {stack : Stack} {d : Document} {key : Key} {n : Nat}
    (h : (key, Json.nested n) ∈ d) (hn : stack.frames < 2 * n) : ¬d.IsShallow stack := by
  intro hd
  have hc := hd _ h
  have hb := (Json.copyFrames_bounds (Json.nested n)).left
  rw [Json.depth_nested] at hb
  exact absurd (Nat.le_trans hb <| Nat.le_of_add_right_le hc) (Nat.not_le.mpr hn)

theorem not_tooLong?_of_int {d : Document} {key : Key} {n : Nat} (h : (key, .int n) ∈ d)
    (hn : Nat.pow 10 Text.digitLimit ≤ n) : d.toJson.tooLong? ≠ none := by
  rw [Ne, Document.tooLong?_toJson_eq_none_iff]
  intro hd
  have hl : (Json.int n).tooLong? = none := hd _ h
  have hl := Text.isOverlong_eq_false_iff.mp <| Json.overlong?_eq_none_iff.mp hl
  rw [Int.natAbs_natCast] at hl
  exact absurd hl (Nat.not_lt.mpr hn)

def tower (v : Json) : Document :=
  [(.text "_id", .text "a"), (.text "_type", .text "t"), (.text "x", v)]

def warehouse (v : Json) : Service where
  token     := some "secret"
  documents := [(.text "1", tower v)]

theorem tower_spec {v : Json} (hv : v.isFloatFree = true) :
    (tower v).IsNamed ∧ (tower v).toJson.isFloatFree = true := by
  refine ⟨⟨_, _, rfl, rfl⟩, Document.isFloatFree_toJson_iff.mpr ?_⟩
  simp only [tower, List.forall_mem_cons, List.not_mem_nil, false_implies, implies_true, and_true]
  exact ⟨rfl, rfl, hv⟩

theorem scanned_warehouse {v : Json} (hv : v.isFloatFree = true) :
    Scanned (warehouse v).stack ["x"] [[(.text "x", v)]] []
      ((librarian.start.1.scan (warehouse v) "t" "a" (1 : Nat) (some ["x"]) []).1.result,
        (librarian.start.1.scan (warehouse v) "t" "a" (1 : Nat) (some ["x"]) []).2) := by
  have hw : window "t" "a" 1 (warehouse v).documents = [tower v] := by
    have hm : matching "t" "a" (warehouse v).documents = [tower v] := rfl
    rw [window, hm, sortById, List.mergeSort_singleton]
    rfl
  have hd : ∀ e ∈ (warehouse v).documents, e.2.IsNamed ∧ e.2.toJson.isFloatFree = true :=
    List.forall_mem_singleton.mpr <| tower_spec hv
  have hs := @scan_of_range librarian.start.1 (warehouse v) 1 ["x"]
    (ready_of_isPlain isPlain_librarian) rfl hd "t" "a" (by decide +kernel) (by decide) []
  rw [hw] at hs
  exact hs

theorem result_warehouse_ne_ok {v : Json} (hv : v.isFloatFree = true)
    (h : ¬(Document.IsShallow (warehouse v).stack [(.text "x", v)] ∧
      (Document.toJson [(.text "x", v)]).tooLong? = none)) :
    (librarian.start.1.scan (warehouse v) "t" "a" (1 : Nat) (some ["x"]) []).1.result ≠
      .ok .ok := by
  have hk := (scanned_warehouse hv).ok_iff
  dsimp only at hk
  intro hr
  have ⟨hs, ht⟩ := hk.mp hr
  exact h ⟨hs _ (.head _), ht _ (.head _)⟩

theorem result_warehouse_of_long {n : Nat} (hn : Nat.pow 10 Text.digitLimit ≤ n) :
    ((tower (.int n)).IsNamed ∧ (tower (.int n)).toJson.isFloatFree = true) ∧
    (librarian.start.1.scan (warehouse (.int n)) "t" "a" (1 : Nat) (some ["x"]) []).1.result ≠
      .ok .ok :=
  ⟨tower_spec rfl, result_warehouse_ne_ok rfl fun h => not_tooLong?_of_int (.head _) hn h.right⟩

-- A surrogate of each half, one after the other.
def halves : JsonText :=
  .broken [.surrogate 0, .surrogate 1024] rfl

theorem scan_warehouse :
    librarian.start.1.IsPlain (some "secret") ∧ 1 < Nat.pow 10 Text.digitLimit ∧
    (∀ name ∈ ["x"], name ≠ "" ∧ ',' ∉ name.toList ∧ '\x7d' ∉ name.toList) ∧
    (∀ v ∈ [Json.nested 600, .int (Nat.pow 10 Text.digitLimit)],
      ((tower v).IsNamed ∧ (tower v).toJson.isFloatFree = true) ∧
      (librarian.start.1.scan (warehouse v) "t" "a" (1 : Nat) (some ["x"]) []).1.result ≠
        .ok .ok) ∧
    ((tower (.text halves)).IsNamed ∧ (tower (.text halves)).toJson.isFloatFree = true) ∧
    (librarian.start.1.scan (warehouse (.text halves)) "t" "a" (1 : Nat) (some ["x"]) []).2 ≠
      [[("x", halves)]] := by
  have hf : ∀ name ∈ ["x"], name ≠ "" ∧ ',' ∉ name.toList ∧ '\x7d' ∉ name.toList := by decide
  refine ⟨isPlain_librarian, by decide +kernel, hf, ?failed, tower_spec rfl, fun hl => ?joined⟩
  case failed =>
    have hn : (Json.nested 600).isFloatFree = true :=
      (Json.rereads_of_isCarried <| Json.isCarried_of_isExact <| Json.isExact_nested 600).left
    rw [List.forall_mem_cons, List.forall_mem_singleton]
    refine ⟨⟨tower_spec hn, result_warehouse_ne_ok hn fun h => ?_⟩,
      result_warehouse_of_long (Nat.le_refl (Nat.pow 10 Text.digitLimit))⟩
    exact not_isShallow_of_nested (.head _) (by decide) h.left
  case joined =>
    have hw := scanned_warehouse (v := .text halves) rfl
    rw [hl] at hw
    generalize hp : ((_, _) : Except Failure Status × List Record) = report at hw
    cases hw
    case delivered => exact absurd (Prod.mk.inj hp).right (by decide)
    case overlong => simp at hp
    case tooDeep => simp at hp

end Client

end DocStore
