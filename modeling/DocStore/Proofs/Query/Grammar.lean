import DocStore.Proofs.Query.RoundTrip
import DocStore.Proofs.Service.Search
import DocStore.Service.State
import Mathlib.Data.List.TakeWhile

namespace DocStore

open Selection

-- A character of a literal as it is written. Any character but a line feed may be escaped.
inductive Sign where
  | plain (c : Char) (h : c ≠ '\'' ∧ c ≠ '\\')
  | escaped (c : Char) (h : c ≠ '\n')

namespace Sign

def char : Sign → Char
  | plain c _ => c
  | escaped c _ => c

def text : Sign → List Char
  | plain c _ => [c]
  | escaped c _ => ['\\', c]

theorem readLiteral_text (signs : List Sign) (rest : List Char) :
    readLiteral (signs.flatMap text ++ '\'' :: rest) = some (signs.map char, rest) := by
  induction signs
  case nil => rfl
  case cons sign signs hi =>
    cases sign
    case plain c h => simp [text, readLiteral, h, hi, char]
    case escaped c h => simp [text, readLiteral, h, hi, char]

theorem exists_text_of_readLiteral {s cs rest : List Char} (h : readLiteral s = some (cs, rest)) :
    ∃ signs : List Sign, signs.map char = cs ∧ signs.flatMap text ++ '\'' :: rest = s := by
  induction s using readLiteral.induct generalizing cs
  case case1 => cases h
  case case2 => cases h
  case case3 s =>
    cases h
    exact ⟨[], rfl, rfl⟩
  case case4 s => simp [readLiteral] at h
  case case5 c s hc hi =>
    simp only [readLiteral, if_neg hc, Option.map_eq_some_iff, Prod.exists, Prod.mk.injEq] at h
    obtain ⟨cs, _, hr, rfl, rfl⟩ := h
    obtain ⟨signs, rfl, rfl⟩ := hi hr
    exact ⟨.escaped c hc :: signs, rfl, rfl⟩
  case case6 c s h₁ h₂ h₃ hi =>
    have hc : c ≠ '\'' ∧ c ≠ '\\' := by
      refine ⟨h₂, fun hb => ?_⟩
      cases s
      case nil => exact h₁ hb rfl
      case cons d s => exact h₃ d s hb rfl
    simp only [readLiteral, Option.map_eq_some_iff, Prod.exists, Prod.mk.injEq] at h
    obtain ⟨cs, _, hr, rfl, rfl⟩ := h
    obtain ⟨signs, rfl, rfl⟩ := hi hr
    exact ⟨.plain c hc :: signs, rfl, rfl⟩

theorem text_append_ne (sign : Sign) (s rest : List Char) : sign.text ++ s ≠ '\'' :: rest := by
  cases sign
  case plain c h =>
    intro he
    exact h.left (List.cons.inj he).left
  case escaped => simp [text]

theorem text_append_inj {sign sign' : Sign} {s s' : List Char}
    (h : sign.text ++ s = sign'.text ++ s') : sign = sign' ∧ s = s' := by
  cases sign <;> cases sign' <;> simp only [text, List.cons_append, List.nil_append,
    List.cons.injEq] at h
  case plain.plain => simpa using h
  case plain.escaped hc _ _ => exact absurd h.left hc.right
  case escaped.plain hc => exact absurd h.left.symm hc.right
  case escaped.escaped => simpa using h

theorem flatMap_text_inj {signs signs' : List Sign} {rest rest' : List Char}
    (h : signs.flatMap text ++ '\'' :: rest = signs'.flatMap text ++ '\'' :: rest') :
    signs = signs' ∧ rest = rest' := by
  induction signs generalizing signs' <;> cases signs' <;>
    simp only [List.flatMap_nil, List.flatMap_cons, List.nil_append, List.append_assoc] at h
  case nil.nil => simpa using h
  case nil.cons => exact absurd h.symm (text_append_ne _ _ _)
  case cons.nil => exact absurd h (text_append_ne _ _ _)
  case cons.cons hi _ _ =>
    have ⟨hs, h⟩ := text_append_inj h
    have ⟨ht, h⟩ := hi h
    exact ⟨hs ▸ ht ▸ rfl, h⟩

end Sign

namespace Selection

theorem expect_eq_some {fixed : String} {s rest : List Char} :
    expect fixed s = some rest ↔ fixed.toList ++ rest = s :=
  List.isPrefixOf?_eq_some_iff_append_eq

def comparisonText : Comparison → List Char
  | .equal => "==".toList
  | .atLeast => ">=".toList

theorem readComparison_text (c : Comparison) (rest : List Char) :
    readComparison (comparisonText c ++ rest) = some (c, rest) := by
  cases c <;> rfl

theorem text_of_readComparison {s rest : List Char} {c : Comparison}
    (h : readComparison s = some (c, rest)) : comparisonText c ++ rest = s := by
  unfold readComparison at h
  split at h <;> cases h <;> rfl

def IsCount (digits : List Char) : Prop :=
  digits ≠ [] ∧ ∀ c ∈ digits, Text.isDecimalDigit c = true

def countText (count : Option (List Char)) : List Char :=
  count.elim [] fun digits => " | order(_id) [0...".toList ++ (digits ++ [']'])

theorem text_of_readCount {s rest : List Char} {count : Option (List Char)}
    (h : readCount s = some (count, rest)) :
    (∀ digits ∈ count, IsCount digits) ∧ countText count ++ rest = s := by
  unfold readCount at h
  split at h
  case h_1 =>
    cases h
    exact ⟨nofun, rfl⟩
  case h_2 s' he =>
    split at h
    case h_2 => cases h
    case h_1 c cs _ hd hr =>
      cases h
      have hs := List.takeWhile_append_dropWhile (p := Text.isDecimalDigit) (l := s')
      have hp : ∀ d ∈ c :: cs, Text.isDecimalDigit d = true := by
        rw [← hd]
        exact fun _ => List.mem_takeWhile_imp
      rw [hd, hr] at hs
      refine ⟨fun _ hm => Option.some.inj hm ▸ ⟨nofun, hp⟩, ?_⟩
      rw [← expect_eq_some.mp he, ← hs]
      simp [countText]

theorem readCount_text {count : Option (List Char)} {rest : List Char}
    (h : ∀ digits ∈ count, IsCount digits) (hr : expect " | order(_id) [0..." rest = none) :
    readCount (countText count ++ rest) = some (count, rest) := by
  cases count
  case none => simp only [countText, Option.elim, List.nil_append, readCount, hr]
  case some digits =>
    obtain ⟨hn, hp⟩ := h digits rfl
    have he : countText (some digits) ++ rest =
        " | order(_id) [0...".toList ++ (digits ++ ']' :: rest) := by
      simp [countText]
    rw [he, readCount_digits hn hp]

def fieldsText (fields : Option (List Char)) : List Char :=
  fields.elim [] fun text => '\x7b' :: text ++ ['\x7d']

theorem text_of_readFields {s rest : List Char} {fields : Option (List Char)}
    (h : readFields s = some (fields, rest)) :
    (∀ text ∈ fields, '\x7d' ∉ text) ∧ fieldsText fields ++ rest = s := by
  unfold readFields at h
  split at h
  case h_2 =>
    cases h
    exact ⟨nofun, rfl⟩
  case h_1 s' =>
    split at h
    case h_2 => cases h
    case h_1 c after hd =>
      cases h
      have hs := List.takeWhile_append_dropWhile (p := (· != '\x7d')) (l := s')
      have hc : c = '\x7d' := by
        have := List.head?_dropWhile_not (· != '\x7d') s'
        simpa [hd] using this
      have hp : '\x7d' ∉ s'.takeWhile (· != '\x7d') :=
        fun hm => by simpa using List.mem_takeWhile_imp hm
      rw [hd, hc] at hs
      refine ⟨fun _ hm => Option.some.inj hm ▸ hp, ?_⟩
      conv => rhs; rw [← hs]
      simp [fieldsText]

theorem readFields_text {fields : Option (List Char)} {rest : List Char}
    (h : ∀ text ∈ fields, '\x7d' ∉ text) (hr : rest.head? ≠ some '\x7b') :
    readFields (fieldsText fields ++ rest) = some (fields, rest) := by
  cases fields
  case none =>
    unfold readFields
    split
    case h_1 hs => simp [fieldsText] at hs; simp [hs] at hr
    case h_2 => rfl
  case some text =>
    rw [← readFields_append (h text rfl) rest]
    simp [fieldsText]

def endText (hasLineFeed : Bool) : List Char :=
  if hasLineFeed then ['\n'] else []

theorem atEnd_iff {s : List Char} : atEnd s = true ↔ ∃ hasLineFeed, endText hasLineFeed = s := by
  constructor
  case mp =>
    intro h
    rcases (show s = [] ∨ s = ['\n'] by simpa [atEnd] using h) with rfl | rfl
    · exact ⟨false, rfl⟩
    · exact ⟨true, rfl⟩
  case mpr =>
    rintro ⟨_ | _, rfl⟩ <;> rfl

structure Spelling where
  type        : List Sign
  comparison  : Comparison
  id          : List Sign
  count       : Option (List Char)
  fields      : Option (List Char)
  hasLineFeed : Bool
  isCount     : ∀ digits ∈ count, IsCount digits
  isClosed    : ∀ text ∈ fields, '\x7d' ∉ text

namespace Spelling

def text (σ : Spelling) : List Char :=
  "*[_type == '".toList ++ σ.type.flatMap Sign.text ++ "' && _id ".toList ++
    comparisonText σ.comparison ++ " '".toList ++ σ.id.flatMap Sign.text ++ "']".toList ++
    countText σ.count ++ fieldsText σ.fields ++ endText σ.hasLineFeed

def selection (σ : Spelling) : Selection :=
  ⟨σ.type.map Sign.char, σ.comparison, σ.id.map Sign.char, σ.count, σ.fields⟩

variable {σ σ' : Spelling}

theorem text_eq (σ : Spelling) :
    σ.text = "*[_type == '".toList ++ (σ.type.flatMap Sign.text ++ '\'' ::
      (" && _id ".toList ++ (comparisonText σ.comparison ++ (" '".toList ++
        (σ.id.flatMap Sign.text ++ '\'' :: ("]".toList ++
          (countText σ.count ++ (fieldsText σ.fields ++ endText σ.hasLineFeed)))))))) := by
  unfold text
  simp

theorem expect_order_eq_none (σ : Spelling) :
    expect " | order(_id) [0..." (fieldsText σ.fields ++ endText σ.hasLineFeed) = none := by
  rw [Option.eq_none_iff_forall_ne_some]
  intro rest h
  have hh := congrArg List.head? (expect_eq_some.mp h)
  cases hf : σ.fields <;> cases hl : σ.hasLineFeed <;> simp [fieldsText, endText, hf, hl] at hh

theorem head?_endText (hasLineFeed : Bool) : (endText hasLineFeed).head? ≠ some '\x7b' := by
  cases hasLineFeed <;> decide

theorem parse?_text (σ : Spelling) : parse? σ.text = some σ.selection := by
  rw [text_eq, parse?, expect_append]
  simp only [Option.bind_eq_bind, Option.bind_some, Sign.readLiteral_text]
  rw [expect_append]
  simp only [Option.bind_some, readComparison_text]
  rw [expect_append]
  simp only [Option.bind_some, Sign.readLiteral_text]
  rw [expect_append]
  simp only [Option.bind_some, readCount_text σ.isCount σ.expect_order_eq_none,
    readFields_text σ.isClosed (head?_endText _), atEnd_iff.mpr ⟨_, rfl⟩]
  rfl

theorem exists_text_of_parse? {s : List Char} {q : Selection} (h : parse? s = some q) :
    ∃ σ : Spelling, σ.text = s := by
  simp only [parse?, Option.bind_eq_bind, Option.bind_eq_some_iff, Prod.exists] at h
  obtain ⟨s₁, h₁, type, s₂, h₂, s₃, h₃, c, s₄, h₄, s₅, h₅, id, s₆, h₆, s₇, h₇, count, s₈, h₈,
    fields, s₉, h₉, he⟩ := h
  split at he
  case isFalse => cases he
  case isTrue ha =>
    obtain ⟨type, -, ht⟩ := Sign.exists_text_of_readLiteral h₂
    obtain ⟨id, -, hi⟩ := Sign.exists_text_of_readLiteral h₆
    obtain ⟨isCount, hn⟩ := text_of_readCount h₈
    obtain ⟨isClosed, hf⟩ := text_of_readFields h₉
    obtain ⟨hasLineFeed, hl⟩ := atEnd_iff.mp ha
    refine ⟨⟨type, c, id, count, fields, hasLineFeed, isCount, isClosed⟩, ?_⟩
    rw [text_eq]
    simp only [hl, hf, hn, expect_eq_some.mp h₇, hi, expect_eq_some.mp h₅,
      text_of_readComparison h₄, expect_eq_some.mp h₃, ht, expect_eq_some.mp h₁]

theorem parse?_eq_none_iff {s : List Char} : parse? s = none ↔ ¬∃ σ : Spelling, σ.text = s := by
  constructor
  case mp =>
    rintro h ⟨σ, rfl⟩
    rw [parse?_text] at h
    cases h
  case mpr =>
    intro h
    rw [Option.eq_none_iff_forall_ne_some]
    exact fun q hq => h (exists_text_of_parse? hq)

-- What is spelled in one way only. The parts that are read as they are written agree because they
-- are read alike, and the literals because they can be told sign by sign.
theorem text_injective (h : σ.text = σ'.text) : σ = σ' := by
  have hs : σ.selection = σ'.selection :=
    Option.some.inj <| by rw [← parse?_text, ← parse?_text, h]
  rw [selection, selection, Selection.mk.injEq] at hs
  obtain ⟨-, hc, -, hn, hf⟩ := hs
  rw [text_eq, text_eq, hc, hn, hf, List.append_cancel_left_eq] at h
  have ⟨ht, h⟩ := Sign.flatMap_text_inj h
  simp only [List.append_cancel_left_eq] at h
  have ⟨hi, h⟩ := Sign.flatMap_text_inj h
  simp only [List.append_cancel_left_eq] at h
  have hl : σ.hasLineFeed = σ'.hasLineFeed := by
    cases hl : σ.hasLineFeed <;> cases hl' : σ'.hasLineFeed <;> simp [hl, hl', endText] at h ⊢
  cases σ
  cases σ'
  simp_all

-- The rows that a query asks for: the documents of its type whose ids compare to its id, in order
-- and cut off at its count if it has these, and with the fields that it names if it names any.
def rows (σ : Spelling) (documents : List Document) : List Document :=
  let type := String.ofList (σ.type.map Sign.char)
  let id := JsonText.plain (String.ofList (σ.id.map Sign.char))
  let found := documents.filter fun d =>
    (d.field? "_type").bind Json.string? = some type &&
      match σ.comparison with
      | .equal => idOf d = id
      | .atLeast => id ≤ idOf d
  let ordered := match σ.comparison with
    | .equal => found
    | .atLeast => sortById found
  let window := σ.count.elim ordered fun digits => ordered.take (Text.decimalValue digits)
  window.map fun d =>
    match σ.fields with
    | some (c :: cs) => project (fieldNames (c :: cs)) d
    | _ => d

theorem limit?_selection (h : ∀ digits ∈ σ.count, digits.length < Text.digitLimit) :
    σ.selection.limit? = .ok (σ.count.map Text.decimalValue) := by
  cases hc : σ.count
  case none => simp [limit?, selection, hc]
  case some digits =>
    have hl : ¬Text.digitLimit < digits.length := Nat.not_lt.mpr (Nat.le_of_lt (h digits hc))
    simp [limit?, selection, hc, hl]

theorem run_selection (stack : Stack) {documents : Documents} (hd : ∀ e ∈ documents, e.2.IsNamed)
    (h : ∀ digits ∈ σ.count, digits.length < Text.digitLimit) :
    σ.selection.run stack documents = copied stack (σ.rows (documents.map Prod.snd)) := by
  have hf : ∀ d ∈ documents.map Prod.snd, d.IsNamed := by
    simpa using fun d key he => hd (key, d) he
  rw [run, found, filter_eq hf, limit?_selection h]
  cases hc : σ.count <;> cases ho : σ.comparison <;>
    simp only [rows, hc, ho, selection, bind, Except.bind, Option.map, Option.elim] <;> rfl

-- A text that the grammar does not spell is refused, and no other text is. One that it spells is
-- spelled in one way only, and answered with the rows that the parts of that spelling ask for.
theorem answerQuery_eq (stack : Stack) {documents : Documents}
    (hd : ∀ e ∈ documents, e.2.IsNamed) (query : String) :
    ((∃ a, Service.answerQuery stack query documents = .ok a ∧ a.code = 400) ↔
      ¬∃ σ : Spelling, σ.text = query.toList) ∧
    ∀ σ : Spelling, σ.text = query.toList →
      (∀ σ' : Spelling, σ'.text = query.toList → σ' = σ) ∧
      ((∀ digits ∈ σ.count, digits.length < Text.digitLimit) →
        Service.answerQuery stack query documents =
          (copied stack (σ.rows (documents.map Prod.snd))).map (Service.rowsAnswer query)) := by
  rw [← parse?_eq_none_iff]
  refine ⟨⟨?accepted, ?refused⟩,
    fun σ hs => ⟨fun σ' hs' => text_injective (hs'.trans hs.symm), ?run⟩⟩
  case accepted =>
    rintro ⟨a, ha, hc⟩
    cases hp : parse? query.toList
    case none => rfl
    case some q =>
      rw [Service.answerQuery, hp] at ha
      cases hr : q.run stack documents <;> simp only [hr, Except.map] at ha
      case error => cases ha
      case ok =>
        cases ha
        simp [Service.rowsAnswer] at hc
  case refused =>
    intro hp
    exact ⟨_, by rw [Service.answerQuery, hp], rfl⟩
  case run =>
    intro h
    rw [Service.answerQuery, ← hs, parse?_text, ← run_selection stack hd h]

def directory : Documents :=
  [(.text "u1", [(.text "_id", .text "u1"), (.text "_type", .text "user"), (.text "n", .int 1)]),
   (.text "u2", [(.text "_id", .text "u2"), (.text "_type", .text "user")])]

def unusualQuery : String :=
  "*[_type == 'u\\ser' && _id == 'u1'] | order(_id) [0...1]\x7bn,\x7d\n"

def unusual : Spelling where
  type        := [.plain 'u' (by decide), .escaped 's' (by decide), .plain 'e' (by decide),
                  .plain 'r' (by decide)]
  comparison  := .equal
  id          := [.plain 'u' (by decide), .plain '1' (by decide)]
  count       := some ['1']
  fields      := some "n,".toList
  hasLineFeed := true
  isCount     := by rintro _ ⟨⟩; exact ⟨nofun, List.forall_mem_singleton.mpr (by decide)⟩
  isClosed    := by rintro _ ⟨⟩; decide

theorem answerQuery_eq_unusual :
    (∀ e ∈ directory, e.2.IsNamed) ∧ unusual.text = unusualQuery.toList ∧
    (∀ digits ∈ unusual.count, digits.length < Text.digitLimit) ∧
    Service.answerQuery default unusualQuery directory =
      .ok (Service.rowsAnswer unusualQuery [[(.text "n", .int 1)]]) := by
  have hd : ∀ e ∈ directory, e.2.IsNamed := by
    simp only [directory, List.forall_mem_cons]
    exact ⟨⟨_, _, rfl, rfl⟩, ⟨_, _, rfl, rfl⟩, nofun⟩
  have ht : unusual.text = unusualQuery.toList := by decide
  have hn : ∀ digits ∈ unusual.count, digits.length < Text.digitLimit := by
    rintro _ ⟨⟩
    decide
  have ⟨_, h⟩ := (answerQuery_eq default hd unusualQuery).right unusual ht
  exact ⟨hd, ht, hn, h hn⟩

end Spelling

end Selection

end DocStore
