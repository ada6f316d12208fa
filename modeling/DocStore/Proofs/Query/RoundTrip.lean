import DocStore.Proofs.Text.Digit
import DocStore.Proofs.Text.Joined
import DocStore.Query
import DocStore.Service.Search

namespace DocStore

theorem Query.text_eq_cons (q : Query) : ∃ rest, q.text.toList = '*' :: rest := by
  simp [text, chars, filterText]

theorem Query.text_ne_empty (q : Query) : q.text ≠ "" := by
  have ⟨_, hr⟩ := q.text_eq_cons
  intro h
  simp [h] at hr

namespace Selection

theorem expect_append (fixed : String) (s : List Char) :
    expect fixed (fixed.toList ++ s) = some s :=
  List.isPrefixOf?_eq_some_iff_append_eq.mpr rfl

-- The closing quote of a literal is the first one that no backslash stands before.
theorem readLiteral_flatMap_escapeChar (s rest : List Char) :
    readLiteral (s.flatMap Query.escapeChar ++ '\'' :: rest) = some (s, rest) := by
  induction s
  case nil => rfl
  case cons c s hi =>
    simp only [List.flatMap_cons, List.append_assoc]
    by_cases h : c = '\\' ∨ c = '\''
    case pos =>
      have hn : c ≠ '\n' := by rintro rfl; simp at h
      simp [Query.escapeChar, h, readLiteral, hn, hi]
    case neg =>
      have ⟨h₁, h₂⟩ := not_or.mp h
      simp [Query.escapeChar, h₁, h₂, readLiteral, hi]

theorem readCount_digits {digits : List Char} (hn : digits ≠ [])
    (hp : ∀ c ∈ digits, Text.isDecimalDigit c = true) (rest : List Char) :
    readCount (" | order(_id) [0...".toList ++ (digits ++ ']' :: rest)) =
      some (some digits, rest) := by
  have hb : Text.isDecimalDigit ']' = false := by decide
  have ht : (digits ++ ']' :: rest).takeWhile Text.isDecimalDigit = digits := by
    simp [List.takeWhile_append_of_pos hp, hb]
  have hd : (digits ++ ']' :: rest).dropWhile Text.isDecimalDigit = ']' :: rest := by
    simp [List.dropWhile_append_of_pos hp, hb]
  rw [readCount, expect_append]
  simp only [ht, hd]
  cases digits
  case nil => exact absurd rfl hn
  case cons => rfl

theorem readCount_toDigits (n : Nat) (rest : List Char) :
    readCount (" | order(_id) [0...".toList ++ (Nat.toDigits 10 n ++ ']' :: rest)) =
      some (some (Nat.toDigits 10 n), rest) :=
  readCount_digits Nat.toDigits_ne_nil (fun _ => Text.isDecimalDigit_of_mem_toDigits) rest

theorem readFields_append {text : List Char} (h : '\x7d' ∉ text) (rest : List Char) :
    readFields ('\x7b' :: text ++ '\x7d' :: rest) = some (some text, rest) := by
  have hp : ∀ c ∈ text, (c != '\x7d') = true := by
    intro c hc
    simpa using ne_of_mem_of_not_mem hc h
  simp [readFields, List.takeWhile_append_of_pos hp, List.dropWhile_append_of_pos hp]

def projectionOf (names : List String) : Option (List Char) :=
  if names.isEmpty then none else some (",".intercalate names).toList

theorem mem_intercalate_comma {c : Char} {names : List String} (hc : c ≠ ',') :
    c ∈ (",".intercalate names).toList ↔ ∃ name ∈ names, c ∈ name.toList := by
  rw [String.toList_intercalate, Text.mem_intercalate (by simpa using hc)]
  simp

theorem projectionText_eq {names : List String} (h : names ≠ []) :
    Query.projectionText names = '\x7b' :: (",".intercalate names).toList ++ ['\x7d'] := by
  simp [Query.projectionText, Query.separated, h]

theorem readFields_projectionText {names : List String}
    (h : ∀ name ∈ names, '\x7d' ∉ name.toList) :
    readFields (Query.projectionText names) = some (projectionOf names, []) := by
  by_cases hn : names = []
  case pos => simp [hn, Query.projectionText, projectionOf, readFields]
  case neg =>
    have hb : '\x7d' ∉ (",".intercalate names).toList := by
      rw [mem_intercalate_comma (by decide)]
      exact fun ⟨name, hm, hc⟩ => h name hm hc
    rw [projectionText_eq hn, readFields_append hb]
    simp [projectionOf, hn]

-- What is left after the first brace ends with the brace that was written to close the projection.
theorem readFields_not_atEnd {names : List String} (h : ∃ name ∈ names, '\x7d' ∈ name.toList) :
    ∃ fields rest, readFields (Query.projectionText names) = some (fields, rest) ∧
      atEnd rest = false := by
  have hn : names ≠ [] := by
    rintro rfl
    simp at h
  have ⟨before, after, he, hb⟩ :=
    List.eq_append_cons_of_mem <| mem_intercalate_comma (by decide) |>.mpr h
  refine ⟨some before, after ++ ['\x7d'], ?_, ?_⟩
  · rw [projectionText_eq hn, he, ← readFields_append hb]
    simp
  · cases after <;> simp [atEnd]

theorem parse?_filterText {symbol : String} {c : Comparison} (type id : String) (rest : List Char)
    (h : ∀ s, readComparison (symbol.toList ++ s) = some (c, s)) :
    parse? (Query.filterText [⟨"_type", "==", type⟩, ⟨"_id", symbol, id⟩] ++ rest) =
      (readCount rest).bind fun (count, s) => (readFields s).bind fun (fields, s) =>
        if atEnd s then some ⟨type.toList, c, id.toList, count, fields⟩ else none := by
  have he : Query.filterText [⟨"_type", "==", type⟩, ⟨"_id", symbol, id⟩] ++ rest =
      "*[_type == '".toList ++ (type.toList.flatMap Query.escapeChar ++ '\'' ::
        (" && _id ".toList ++ (symbol.toList ++ (" '".toList ++
          (id.toList.flatMap Query.escapeChar ++ '\'' :: ("]".toList ++ rest)))))) := by
    simp [Query.filterText, Query.conditionText, Query.separated, Query.literalChars]
  rw [he, parse?, expect_append]
  simp only [Option.bind_eq_bind, Option.bind_some, readLiteral_flatMap_escapeChar]
  rw [expect_append]
  simp only [Option.bind_some, h]
  rw [expect_append]
  simp only [Option.bind_some, readLiteral_flatMap_escapeChar]
  rw [expect_append]
  rfl

theorem readCount_projectionText (names : List String) :
    readCount (Query.projectionText names) = some (none, Query.projectionText names) := by
  cases names <;> rfl

-- A name with the brace that closes projections among them.
def HasBrace (names : List String) : Prop :=
  ∃ name ∈ names, '\x7d' ∈ name.toList

instance (names : List String) : Decidable (HasBrace names) :=
  inferInstanceAs <| Decidable (∃ name ∈ names, '\x7d' ∈ name.toList)

theorem readFields_bind (names : List String) (q : Selection) :
    ((readFields (Query.projectionText names)).bind fun (fields, s) =>
        if atEnd s then some { q with fields } else none) =
      if HasBrace names then none else some { q with fields := projectionOf names } := by
  split
  case isTrue h =>
    have ⟨_, _, hr, he⟩ := readFields_not_atEnd h
    simp [hr, he]
  case isFalse h =>
    have h : ∀ name ∈ names, '\x7d' ∉ name.toList := fun name hm hc => h ⟨name, hm, hc⟩
    simp [readFields_projectionText h, atEnd]

theorem parse?_lookup (type id : String) (names : List String) :
    parse? (Query.lookup type id names).text.toList =
      if HasBrace names then none
      else some ⟨type.toList, .equal, id.toList, none, projectionOf names⟩ := by
  have he : (Query.lookup type id names).text.toList =
      Query.filterText [⟨"_type", "==", type⟩, ⟨"_id", "==", id⟩] ++
        Query.projectionText names := by
    have hc : (Query.lookup type id names).chars =
        Query.filterText [⟨"_type", "==", type⟩, ⟨"_id", "==", id⟩] ++ [] ++ [] ++
          Query.projectionText names := rfl
    rw [Query.text, String.toList_ofList, hc, List.append_nil, List.append_nil]
  rw [he, parse?_filterText type id _ fun _ => rfl, readCount_projectionText]
  exact readFields_bind names ⟨type.toList, .equal, id.toList, none, none⟩

theorem range_natCast (type start : String) (n : Nat) (names : List String) :
    Query.range type start n names =
      .ok ⟨[⟨"_type", "==", type⟩, ⟨"_id", ">=", start⟩], ["_id"], some (.number n), names⟩ := by
  simp [Query.range, Query.limitTo, Query.ofType, Query.filter, Query.orderBy, Query.select,
    Count.value, Except.map, Int.not_ofNat_neg]

theorem range_of_neg (type start : String) {count : Int} (h : count < 0) (names : List String) :
    Query.range type start count names = .error (.ofNegative count) := by
  have hv : (Count.number count).value < 0 := h
  simp only [Query.range, Query.limitTo, if_pos hv]
  rfl

theorem parse?_range {type start : String} {n : Nat} {names : List String} {q : Query}
    (h : Query.range type start n names = .ok q) :
    parse? q.text.toList =
      if HasBrace names then none
      else some ⟨type.toList, .atLeast, start.toList, some (Nat.toDigits 10 n),
        projectionOf names⟩ := by
  have he : q.text.toList =
      Query.filterText [⟨"_type", "==", type⟩, ⟨"_id", ">=", start⟩] ++
        (" | order(_id) [0...".toList ++
          (Nat.toDigits 10 n ++ ']' :: Query.projectionText names)) := by
    cases range_natCast type start n names ▸ h
    have hc : Query.chars
        ⟨[⟨"_type", "==", type⟩, ⟨"_id", ">=", start⟩], ["_id"], some (.number n), names⟩ =
        Query.filterText [⟨"_type", "==", type⟩, ⟨"_id", ">=", start⟩] ++
          " | order(_id)".toList ++ (" [0...".toList ++ (n : Int).repr.toList ++ [']']) ++
          Query.projectionText names := rfl
    have hn : (n : Int).repr.toList = Nat.toDigits 10 n := by simp [Int.repr]
    have ho : " | order(_id) [0...".toList = " | order(_id)".toList ++ " [0...".toList := rfl
    rw [Query.text, String.toList_ofList, hc, ho, hn]
    simp only [List.append_assoc, List.singleton_append]
  rw [he, parse?_filterText type start _ fun _ => rfl, readCount_toDigits]
  exact readFields_bind names ⟨type.toList, .atLeast, start.toList, some _, none⟩

theorem limit?_toDigits {q : Selection} {n : Nat} (hn : n < Nat.pow 10 Text.digitLimit)
    (h : q.count = some (Nat.toDigits 10 n)) : q.limit? = .ok (some n) := by
  have hl := Text.length_toDigits_le_iff (by decide) |>.mpr hn
  simp [limit?, h, Nat.not_lt.mpr hl]

-- A query of the binding has a text unless its count is too long.
theorem build_range {type start : String} {n : Nat} (hn : n < Nat.pow 10 Text.digitLimit)
    {names : List String} {q : Query} (h : Query.range type start n names = .ok q) :
    q.build = .ok q.text := by
  cases range_natCast type start n names ▸ h
  have hs : Text.isOverlong n = false := Text.isOverlong_eq_false_iff.mpr (by simpa using hn)
  simp [Query.build, hs]

theorem build_range_of_overlong {type start : String} {n : Nat}
    (hn : Nat.pow 10 Text.digitLimit ≤ n) {names : List String} {q : Query}
    (h : Query.range type start n names = .ok q) : q.build = .error .overlong := by
  cases range_natCast type start n names ▸ h
  have hs : Text.isOverlong n = true := Text.isOverlong_iff.mpr (by simpa using hn)
  simp [Query.build, hs]

-- The text of the query of a scan, if its count is one that can be asked for and written.
def rangeText (type start : String) (count : Int) (names : List String) :
    Except CountFault String :=
  (Query.range type start count names).bind Query.build

theorem rangeText_natCast (type start : String) {n : Nat} (hn : n < Nat.pow 10 Text.digitLimit)
    (names : List String) :
    ∃ q, Query.range type start n names = .ok q ∧ rangeText type start n names = .ok q.text := by
  have hr := range_natCast type start n names
  exact ⟨_, hr, by rw [rangeText, hr, Except.bind, build_range hn hr]⟩

theorem rangeText_cases (type start : String) (count : Int) (names : List String) :
    (Text.isOverlong count = true ∧ rangeText type start count names = .error .overlong) ∨
    (Text.isOverlong count = false ∧ count < 0 ∧
      rangeText type start count names = .error (.negative count)) ∨
    ∃ (n : Nat) (q : Query), count = n ∧ n < Nat.pow 10 Text.digitLimit ∧
      Query.range type start n names = .ok q ∧ rangeText type start n names = .ok q.text := by
  by_cases hc : count < 0
  case pos =>
    rw [rangeText, range_of_neg type start hc, Except.bind, CountFault.ofNegative]
    cases ho : Text.isOverlong count
    case false => exact .inr <| .inl ⟨rfl, hc, rfl⟩
    case true => exact .inl ⟨rfl, rfl⟩
  case neg =>
    obtain ⟨n, rfl⟩ := Int.eq_ofNat_of_zero_le (Int.not_lt.mp hc)
    cases ho : Text.isOverlong n
    case false =>
      have hn : n < Nat.pow 10 Text.digitLimit := by
        simpa using Text.isOverlong_eq_false_iff.mp ho
      have ⟨q, hr, ht⟩ := rangeText_natCast type start hn names
      exact .inr <| .inr ⟨n, q, rfl, hn, hr, ht⟩
    case true =>
      have hn : Nat.pow 10 Text.digitLimit ≤ n := by simpa using Text.isOverlong_iff.mp ho
      have hr := range_natCast type start n names
      exact .inl ⟨rfl, by rw [rangeText, hr, Except.bind, build_range_of_overlong hn hr]⟩

theorem rangeText_alike (type start : String) (count : Int) (names names' : List String) :
    (∃ fault, rangeText type start count names = .error fault ∧
      rangeText type start count names' = .error fault) ∨
    ∃ n : Nat, count = n ∧ n < Nat.pow 10 Text.digitLimit := by
  rcases rangeText_cases type start count names with
    ⟨ho, he⟩ | ⟨ho, _, he⟩ | ⟨n, _, hc, hn, _⟩
  case inr.inr => exact .inr ⟨n, hc, hn⟩
  all_goals
    rcases rangeText_cases type start count names' with
      ⟨ho', he'⟩ | ⟨ho', _, he'⟩ | ⟨n, _, hc, hn, _⟩
    case inr.inr => exact .inr ⟨n, hc, hn⟩
    all_goals first
      | exact .inl ⟨_, he, he'⟩
      | cases ho.symm.trans ho'

theorem selects_of_texts (c : Comparison) {d : Document} {t i : JsonText}
    {count fields : Option (List Char)} (type id : String)
    (ht : d.field? "_type" = some (.text t)) (hi : d.field? "_id" = some (.text i)) :
    selects ⟨type.toList, c, id.toList, count, fields⟩ d =
      .ok (t = .plain type ∧ c.admits id i) := by
  by_cases h : t = .plain type <;> simp [selects, ht, hi, Json.string?, typeText, idText, h,
    Comparison.holds]

-- A query of the binding cannot be read back if a name has the brace that closes a projection. Else
-- it is read back as the query it was built as, and selects what that query is about.
theorem parse?_undoes_text (type id : String) (fields : Option (List String)) (n : Nat)
    (hn : n < Nat.pow 10 Text.digitLimit) :
    ∃ range, Query.range type id n (fields.getD []) = .ok range ∧ range.build = .ok range.text ∧
      (parse? (Query.lookup type id (fields.getD [])).text.toList = none ↔
        ∃ name ∈ fields.getD [], '\x7d' ∈ name.toList) ∧
      (parse? range.text.toList = none ↔ ∃ name ∈ fields.getD [], '\x7d' ∈ name.toList) ∧
      (∀ q, parse? (Query.lookup type id (fields.getD [])).text.toList = some q →
        q = ⟨type.toList, .equal, id.toList, none, projectionOf (fields.getD [])⟩ ∧
        ∀ (d : Document) (t i : JsonText),
          d.field? "_type" = some (.text t) → d.field? "_id" = some (.text i) →
          q.selects d = .ok (t = .plain type ∧ i = .plain id)) ∧
      (∀ q, parse? range.text.toList = some q →
        q = ⟨type.toList, .atLeast, id.toList, some (Nat.toDigits 10 n),
          projectionOf (fields.getD [])⟩ ∧
        q.limit? = .ok (some n) ∧
        ∀ (d : Document) (t i : JsonText),
          d.field? "_type" = some (.text t) → d.field? "_id" = some (.text i) →
          q.selects d = .ok (t = .plain type ∧ .plain id ≤ i)) := by
  have hr := range_natCast type id n (fields.getD [])
  refine ⟨_, hr, build_range hn hr, ?_, ?_, ?_, ?_⟩
  case refine_1 =>
    rw [parse?_lookup]
    split <;> simp_all [HasBrace]
  case refine_2 =>
    rw [parse?_range hr]
    split <;> simp_all [HasBrace]
  case refine_3 =>
    intro q h
    simp only [parse?_lookup, Option.ite_none_left_eq_some, Option.some.injEq] at h
    have ⟨_, h⟩ := h
    subst h
    refine ⟨rfl, fun d t i ht hi => (selects_of_texts .equal type id ht hi).trans ?_⟩
    simp [Comparison.admits]
  case refine_4 =>
    intro q h
    simp only [parse?_range hr, Option.ite_none_left_eq_some, Option.some.injEq] at h
    have ⟨_, h⟩ := h
    subst h
    refine ⟨rfl, limit?_toDigits hn rfl, fun d t i ht hi => ?_⟩
    refine (selects_of_texts .atLeast type id ht hi).trans ?_
    simp [Comparison.admits]

theorem parse?_undoes_text_quotes :
    10 < Nat.pow 10 Text.digitLimit ∧
    ∃ range, Query.range "o'neil\\" "' && _id == '" 10 ["a", "b"] = .ok range ∧
      parse? range.text.toList =
        some ⟨"o'neil\\".toList, .atLeast, "' && _id == '".toList, some ['1', '0'],
          some "a,b".toList⟩ := by
  have hn : 10 < Nat.pow 10 Text.digitLimit := by decide +kernel
  have ⟨range, hr, _, _, hb, _, hq⟩ :=
    parse?_undoes_text "o'neil\\" "' && _id == '" (some ["a", "b"]) 10 hn
  refine ⟨hn, range, hr, ?_⟩
  cases h : parse? range.text.toList
  case none => exact absurd (hb.mp h) (by decide)
  case some q =>
    have ⟨he, _⟩ := hq q h
    rw [he]
    decide

end Selection

end DocStore
