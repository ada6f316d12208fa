import DocStore.Failure
import DocStore.Proofs.Text.Digit
import DocStore.Query
import Mathlib.Data.List.Basic

namespace DocStore

namespace Query

namespace Clause

def condition? : Clause → Option Condition
  | filter condition => some condition
  | _ => none

def ordering : Clause → List String
  | orderBy names => names
  | _ => []

def count? : Clause → Option Count
  | limit count => if count.value < 0 then none else some count
  | _ => none

def fields : Clause → List String
  | select fields => fields
  | _ => []

end Clause

def extend (q : Query) (clause : Clause) : Query :=
  match q.add clause with
  | .ok q => q
  | .error _ => q

def built (q : Query) (clauses : List Clause) : Query :=
  clauses.foldl extend q

def accepted : Query → List Clause → List Clause
  | _, [] => []
  | q, clause :: rest =>
    match q.add clause with
    | .ok q => clause :: accepted q rest
    | .error _ => accepted q rest

-- Only a limit of fewer than no documents is refused.
theorem add_eq_error {q : Query} {clause : Clause} {fault : CountFault} :
    q.add clause = .error fault ↔
      ∃ count, clause = .limit count ∧ count.value < 0 ∧ fault = .ofNegative count.value := by
  cases clause
  case limit count =>
    have hc (p : Count → Prop) : (∃ c, Clause.limit count = .limit c ∧ p c) ↔ p count := by simp
    rw [hc, add, limitTo]
    by_cases h : count.value < 0 <;> simp [h, @eq_comm _ fault]
  all_goals simp [add]

theorem extend_eq (q : Query) (clause : Clause) :
    q.extend clause =
      ⟨q.conditions ++ clause.condition?.toList, q.ordering ++ clause.ordering,
        clause.count?.or q.limit, q.fields ++ clause.fields⟩ := by
  cases clause
  case limit count =>
    by_cases h : count.value < 0 <;>
      simp [extend, add, limitTo, h, Clause.condition?, Clause.ordering, Clause.count?,
        Clause.fields]
  all_goals
    simp [extend, add, filter, orderBy, select, Clause.condition?, Clause.ordering,
      Clause.count?, Clause.fields]

theorem built_eq (q : Query) (clauses : List Clause) :
    q.built clauses =
      ⟨q.conditions ++ clauses.filterMap Clause.condition?,
        q.ordering ++ clauses.flatMap Clause.ordering,
        (clauses.filterMap Clause.count?).getLast?.or q.limit,
        q.fields ++ clauses.flatMap Clause.fields⟩ := by
  induction clauses generalizing q
  case nil => simp [built]
  case cons clause rest hi =>
    have hb : q.built (clause :: rest) = (q.extend clause).built rest := rfl
    rw [hb, hi, extend_eq]
    cases hc : clause.condition? <;> cases hn : clause.count? <;>
      simp [hc, hn, List.getLast?_cons]

-- The accepted clauses run through without a refusal, and to the same query.
theorem foldlM_accepted (q : Query) (clauses : List Clause) :
    (q.accepted clauses).foldlM add q = .ok (q.built clauses) := by
  induction clauses generalizing q
  case nil => rfl
  case cons clause rest hi =>
    have hb : q.built (clause :: rest) = (q.extend clause).built rest := rfl
    cases ha : q.add clause
    case error e =>
      have he : q.extend clause = q := by simp [extend, ha]
      simp [accepted, ha, hi, hb, he]
    case ok next =>
      have he : q.extend clause = next := by simp [extend, ha]
      simp [accepted, ha, hi, hb, he, bind, Except.bind]

theorem toList_literal (s : String) : (literal s).toList = literalChars s.toList := by
  simp [literal]

theorem ofList_filterText (type : String) (conditions : List Condition) :
    String.ofList (filterText (⟨"_type", "==", type⟩ :: conditions)) =
      "*[" ++ " && ".intercalate (("_type == " ++ literal type) :: conditions.map fun c =>
        c.field ++ " " ++ c.operator ++ " " ++ literal c.value) ++ "]" := by
  have hc : (String.toList ∘ fun c : Condition =>
      c.field ++ " " ++ c.operator ++ " " ++ literal c.value) = conditionText := by
    funext c
    simp [conditionText, toList_literal]
  rw [← String.toList_inj]
  simp only [String.toList_append, String.toList_intercalate, List.map_cons, List.map_map, hc]
  simp [filterText, separated, conditionText, toList_literal]

theorem ofList_orderText (names : List String) :
    String.ofList (orderText names) =
      if names = [] then "" else " | order(" ++ ", ".intercalate names ++ ")" := by
  rw [← String.toList_inj]
  cases names <;> simp [orderText, separated, String.toList_intercalate]

theorem ofList_limitText (count : Option Count) :
    String.ofList (limitText count) =
      count.elim "" fun count => " [0..." ++ String.ofList count.chars ++ "]" := by
  rw [← String.toList_inj]
  unfold limitText
  cases count <;> simp

theorem ofList_projectionText (fields : List String) :
    String.ofList (projectionText fields) =
      if fields = [] then "" else "\x7b" ++ ",".intercalate fields ++ "\x7d" := by
  rw [← String.toList_inj]
  cases fields <;> simp [projectionText, separated, String.toList_intercalate]

-- Runs of clauses that give the same, each kind of clause for itself.
structure Alike (clauses clauses' : List Clause) : Prop where
  conditions : clauses.filterMap Clause.condition? = clauses'.filterMap Clause.condition?
  ordering   : clauses.flatMap Clause.ordering = clauses'.flatMap Clause.ordering
  count      : (clauses.filterMap Clause.count?).getLast? =
                 (clauses'.filterMap Clause.count?).getLast?
  fields     : clauses.flatMap Clause.fields = clauses'.flatMap Clause.fields

theorem Alike.built_eq {clauses clauses' : List Clause} (h : Alike clauses clauses') (q : Query) :
    q.built clauses = q.built clauses' := by
  rw [Query.built_eq, Query.built_eq, h.conditions, h.ordering, h.count, h.fields]

-- A query has a text exactly if its count is none that is too long.
theorem build_cases (q : Query) :
    (∃ n, q.limit = some (.number n) ∧ Nat.pow 10 Text.digitLimit ≤ n.natAbs ∧
      q.build = .error .overlong) ∨
    (∀ n, q.limit = some (.number n) → n.natAbs < Nat.pow 10 Text.digitLimit) ∧
      q.build = .ok q.text := by
  unfold build
  rcases q.limit with _ | n | b
  case none => exact .inr ⟨nofun, rfl⟩
  case some.truth => exact .inr ⟨nofun, rfl⟩
  case some.number =>
    cases ho : Text.isOverlong n
    case true => exact .inl ⟨n, rfl, Text.isOverlong_iff.mp ho, by simp [ho]⟩
    case false =>
      refine .inr ⟨?_, by simp [ho]⟩
      rintro _ ⟨⟩
      exact Text.isOverlong_eq_false_iff.mp ho

theorem build_limit {type : String} {n : Int} (hn : 0 ≤ n)
    (h : Nat.pow 10 Text.digitLimit ≤ n.natAbs) :
    ((ofType type).built [.limit (.number n)]).build = .error .overlong := by
  have hl : ((ofType type).built [.limit (.number n)]).limit = some (.number n) := by
    simp [built_eq, Clause.count?, Count.value, Int.not_lt.mpr hn]
  rw [build, hl]
  exact if_pos (Text.isOverlong_iff.mpr h)

-- The text of the accepted clauses: the condition on the type, then the other conditions as they
-- came, and an order, a limit and a projection only where something was given for them.
def accumulated (type : String) (clauses : List Clause) : String :=
  let conditions := clauses.filterMap Clause.condition?
  let names := clauses.flatMap Clause.ordering
  let count := (clauses.filterMap Clause.count?).getLast?
  let fields := clauses.flatMap Clause.fields
  "*[" ++ " && ".intercalate (("_type == " ++ literal type) :: conditions.map fun c =>
      c.field ++ " " ++ c.operator ++ " " ++ literal c.value) ++ "]" ++
    (if names = [] then "" else " | order(" ++ ", ".intercalate names ++ ")") ++
    (count.elim "" fun count => " [0..." ++ String.ofList count.chars ++ "]") ++
    (if fields = [] then "" else "\x7b" ++ ",".intercalate fields ++ "\x7d")

theorem text_of_built (type : String) (clauses : List Clause) :
    ((ofType type).built clauses).text = accumulated type clauses := by
  rw [built_eq, text, chars, String.ofList_append, String.ofList_append, String.ofList_append,
    ofType, List.singleton_append, ofList_filterText, ofList_orderText, ofList_limitText,
    ofList_projectionText]
  simp only [accumulated, List.nil_append, Option.or_none]

theorem limit_of_built (type : String) (clauses : List Clause) :
    ((ofType type).built clauses).limit = (clauses.filterMap Clause.count?).getLast? := by
  rw [built_eq]
  exact Option.or_none

-- What is built after any run of clauses, refused ones among them, is the text of the accepted
-- clauses, unless their last count is too long to be written. It is the same after runs that give
-- the same. A negative count is refused as an invalid value, unless it is too long itself.
theorem text_built (type : String) :
    (∀ clauses : List Clause,
      let q := (ofType type).built clauses
      let count := (clauses.filterMap Clause.count?).getLast?
      ((ofType type).accepted clauses).foldlM add (ofType type) = .ok q ∧
        ((∀ n, count = some (.number n) → n.natAbs < Nat.pow 10 Text.digitLimit) →
          q.build = .ok (accumulated type clauses)) ∧
        ∀ n, count = some (.number n) → Nat.pow 10 Text.digitLimit ≤ n.natAbs →
          q.build = .error .overlong) ∧
    (∀ clauses clauses' : List Clause, Alike clauses clauses' →
      ((ofType type).built clauses).build = ((ofType type).built clauses').build) ∧
    ∀ (q : Query) (clause : Clause),
      (∀ fault, q.add clause = .error fault ↔
        ∃ count, clause = .limit count ∧ count.value < 0 ∧ fault = .ofNegative count.value) ∧
      ∀ count : Int, (count.natAbs < Nat.pow 10 Text.digitLimit →
          (Failure.badCount (.ofNegative count)).kind? = some .invalidValue) ∧
        (Nat.pow 10 Text.digitLimit ≤ count.natAbs → CountFault.ofNegative count = .overlong) := by
  refine ⟨fun clauses => ⟨foldlM_accepted _ clauses, fun hn => ?text, fun n hc hn => ?overlong⟩,
    fun _ _ h => by rw [h.built_eq],
    fun _ _ => ⟨fun _ => add_eq_error, fun count => ⟨fun hn => ?short, fun hn => ?long⟩⟩⟩
  case text =>
    rw [← limit_of_built type] at hn
    rcases build_cases ((ofType type).built clauses) with ⟨n, hc, hl, _⟩ | ⟨_, hb⟩
    case inl => exact absurd (hn n hc) (Nat.not_lt.mpr hl)
    case inr => rw [hb, text_of_built]
  case overlong =>
    rw [← limit_of_built type] at hc
    rcases build_cases ((ofType type).built clauses) with ⟨_, _, _, hb⟩ | ⟨hs, _⟩
    case inl => exact hb
    case inr => exact absurd (hs n hc) (Nat.not_lt.mpr hn)
  case short => rw [CountFault.ofNegative, Text.isOverlong_eq_false_iff.mpr hn]; rfl
  case long => rw [CountFault.ofNegative, Text.isOverlong_iff.mpr hn, if_pos rfl]

theorem text_built_scan :
    Alike
        [.filter ⟨"_id", ">=", "u1"⟩, .limit (.number (-1)), .orderBy ["_id"],
          .limit (.number 10), .select ["a", "b"]]
        [.select ["a"], .limit (.number 3), .limit (.number 10), .select ["b"],
          .orderBy ["_id"], .filter ⟨"_id", ">=", "u1"⟩] ∧
      10 < Nat.pow 10 Text.digitLimit ∧
      ((ofType "user").built
          [.filter ⟨"_id", ">=", "u1"⟩, .limit (.number (-1)), .orderBy ["_id"],
            .limit (.number 10), .select ["a", "b"]]).build =
        .ok "*[_type == 'user' && _id >= 'u1'] | order(_id) [0...10]\x7ba,b\x7d" ∧
      ((ofType "user").built
          [.select ["a"], .limit (.number 3), .limit (.number 10), .select ["b"],
            .orderBy ["_id"], .filter ⟨"_id", ">=", "u1"⟩]).build =
        .ok "*[_type == 'user' && _id >= 'u1'] | order(_id) [0...10]\x7ba,b\x7d" := by
  have h : Alike
      [.filter ⟨"_id", ">=", "u1"⟩, .limit (.number (-1)), .orderBy ["_id"],
        .limit (.number 10), .select ["a", "b"]]
      [.select ["a"], .limit (.number 3), .limit (.number 10), .select ["b"],
        .orderBy ["_id"], .filter ⟨"_id", ">=", "u1"⟩] := ⟨rfl, rfl, rfl, rfl⟩
  have hn : 10 < Nat.pow 10 Text.digitLimit := by decide +kernel
  have ⟨ht, ha, _⟩ := text_built "user"
  have hb := (ht [.filter ⟨"_id", ">=", "u1"⟩, .limit (.number (-1)), .orderBy ["_id"],
    .limit (.number 10), .select ["a", "b"]]).right.left fun n hc => by
      cases hc
      exact hn
  exact ⟨h, hn, hb.trans (by decide), (ha _ _ h).symm.trans (hb.trans (by decide))⟩

-- A count may be too long for any text; and one and the truth count alike, but are not written
-- alike.
theorem count_unwritten :
    ((ofType "t").built [.limit (.number (Nat.pow 10 Text.digitLimit))]).build =
        .error .overlong ∧
      (Count.number 1).value = (Count.truth true).value ∧
      ((ofType "t").built [.limit (.number 1)]).build = .ok "*[_type == 't'] [0...1]" ∧
      ((ofType "t").built [.limit (.truth true)]).build = .ok "*[_type == 't'] [0...True]" := by
  refine ⟨build_limit (Int.natCast_nonneg _) ?_, rfl, by decide, by decide⟩
  exact Nat.le_of_eq (Int.natAbs_natCast _).symm

end Query

end DocStore
