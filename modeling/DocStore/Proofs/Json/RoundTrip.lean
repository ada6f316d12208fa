import DocStore.Json.Depth
import DocStore.Proofs.Entries
import DocStore.Proofs.Json.Text
import DocStore.Proofs.Text.Digit
import Mathlib.Data.List.Basic

namespace DocStore.Json

-- Whether a text goes on as it does after a value: not at all, or within what the value is in.
def endsValue : List Char → Bool
  | [] => true
  | c :: _ => c = ',' || c = ']' || c = '\x7d'

variable {rest : List Char}

theorem isDigit_of_mem_toDigits {n : Nat} {c : Char} (h : c ∈ Nat.toDigits 10 n) :
    isDigit c = true := by
  have h : c.isDigit = true := Nat.isDigit_of_mem_toDigits (by decide) (by decide) h
  simpa [isDigit, Percent.isAsciiDigit, Char.isDigit, Char.le_def] using h

theorem wholePart_toDigits (n : Nat) (h : endsValue rest = true) :
    wholePart (Nat.toDigits 10 n ++ rest) = (Nat.toDigits 10 n, rest) := by
  have hp : ∀ c ∈ Nat.toDigits 10 n, isDigit c = true := fun _ => isDigit_of_mem_toDigits
  have hr : rest.takeWhile isDigit = [] ∧ rest.dropWhile isDigit = rest := by
    cases rest
    case nil => exact ⟨rfl, rfl⟩
    case cons c cs =>
      have hc : isDigit c = false := by
        simp only [endsValue, Bool.or_eq_true, decide_eq_true_eq] at h
        rcases h with (rfl | rfl) | rfl <;> decide
      simp [hc]
  cases hd : Nat.toDigits 10 n
  case nil => exact absurd hd Nat.toDigits_ne_nil
  case cons c digits =>
    by_cases hc : c = '0'
    case pos =>
      subst hc
      have hn := Text.eq_zero_of_toDigits_eq_cons hd
      rw [hn, Nat.toDigits_zero, List.cons.injEq] at hd
      simp [← hd.right, wholePart]
    case neg =>
      have hw : wholePart (c :: digits ++ rest) =
          ((c :: digits ++ rest).takeWhile isDigit, (c :: digits ++ rest).dropWhile isDigit) := by
        rw [wholePart.eq_def]
        split <;> simp_all
      rw [hw, ← hd, List.takeWhile_append_of_pos hp, List.dropWhile_append_of_pos hp, hr.left,
        hr.right, List.append_nil]

-- The count of the digits of a number if they are too many to be read.
def overlong? (n : Nat) : Option Nat :=
  let digits := (Nat.toDigits 10 n).length
  if Text.digitLimit < digits then some digits else none

def reading {α : Type} (overlong? : Option Nat) (value : α) (rest : List Char) : Reading α :=
  match overlong? with
  | some digits => .error (.tooLong digits)
  | none => .ok (value, rest)

theorem map_reading {α β : Type} (f : α → β) (overlong? : Option Nat) (value : α) :
    (reading overlong? value rest).map (fun (value, rest) => (f value, rest)) =
      reading overlong? (f value) rest := by
  cases overlong? <;> rfl

theorem readNumber_toDigits (negative : Bool) (n : Nat) (h : endsValue rest = true) :
    readNumber negative (Nat.toDigits 10 n ++ rest) =
      reading (overlong? n) (.int (if negative then -n else n)) rest := by
  have hf : fractionPart rest = ([], rest) := by
    unfold fractionPart
    split
    case h_1 => simp [endsValue] at h
    case h_2 => rfl
  have he : exponentPart? rest = none := by
    unfold exponentPart?
    split
    case h_1 => simp [endsValue] at h
    case h_2 => simp [endsValue] at h
    case h_3 => rfl
  by_cases hn : Text.digitLimit < (Nat.toDigits 10 n).length <;>
    simp [readNumber, wholePart_toDigits n h, hf, he, hn, overlong?, reading]

theorem readWord?_eq_none {c : Char} {s : List Char} (h : isDigit c = true) :
    readWord? (c :: s) = none ∧ readWord? ('-' :: c :: s) = none := by
  have hn {d : Char} (hd : isDigit d = false) : d ≠ c := by
    rintro rfl
    simp [h] at hd
  constructor
  all_goals
    simp [readWord?, words, List.isPrefixOf?, @hn 'n' rfl, @hn 't' rfl, @hn 'f' rfl, @hn 'N' rfl,
      @hn 'I' rfl, @hn '-' rfl]

theorem readScalar_toDigits (n : Nat) (h : endsValue rest = true) :
    readScalar (Nat.toDigits 10 n ++ rest) = reading (overlong? n) (.int n) rest ∧
      readScalar ('-' :: (Nat.toDigits 10 n ++ rest)) =
        reading (overlong? n) (.int (-n)) rest := by
  have hf := readNumber_toDigits false n h
  have ht := readNumber_toDigits true n h
  cases hd : Nat.toDigits 10 n
  case nil => exact absurd hd Nat.toDigits_ne_nil
  case cons c digits =>
    have hc : isDigit c = true := isDigit_of_mem_toDigits (hd ▸ List.mem_cons_self)
    have ⟨hw, hw'⟩ := @readWord?_eq_none c (digits ++ rest) hc
    rw [hd, List.cons_append] at hf ht
    constructor
    case left =>
      rw [List.cons_append, readScalar.eq_def, hw]
      dsimp only
      split
      case h_1 he =>
        rw [List.head_eq_of_cons_eq he] at hc
        exact absurd hc (by decide)
      case h_2 he =>
        rw [← List.head_eq_of_cons_eq he, hc, if_pos rfl, hf]
        rfl
      case h_3 he => cases he
    case right =>
      rw [List.cons_append, readScalar.eq_def, hw']
      simpa [hc] using ht

theorem readScalar_repr (n : Int) (h : endsValue rest = true) :
    readScalar (n.repr.toList ++ rest) = reading (overlong? n.natAbs) (.int n) rest := by
  cases n
  case ofNat n => simpa [Int.repr] using (readScalar_toDigits n h).left
  case negSucc n =>
    rw [Int.natAbs_negSucc]
    simpa [Int.repr, Int.negSucc_eq] using (readScalar_toDigits (n + 1) h).right

theorem repr_eq_cons (n : Int) :
    ∃ c cs, n.repr.toList = c :: cs ∧ (c = '-' ∨ isDigit c = true) := by
  cases n
  case ofNat n =>
    cases hd : Nat.toDigits 10 n
    case nil => exact absurd hd Nat.toDigits_ne_nil
    case cons c cs =>
      have hc : isDigit c = true := isDigit_of_mem_toDigits (hd ▸ List.mem_cons_self)
      exact ⟨c, cs, by simp [Int.repr, hd], .inr hc⟩
  case negSucc n => exact ⟨'-', (n + 1).repr.toList, by simp [Int.repr], .inl rfl⟩

mutual

-- Whether JSON text carries a value whose texts pass a test: it has no floats, no number of too
-- many digits, and no object with two members of one name.
def isCarriedWith (isFit : JsonText → Bool) : Json → Bool
  | .int n => !Text.isOverlong n
  | .float _ => false
  | .text t => isFit t
  | .array items => areCarriedWith isFit items
  | .object members =>
    decide (members.map Prod.fst).Nodup && areCarriedMembersWith isFit members
  | _ => true

def areCarriedWith (isFit : JsonText → Bool) : List Json → Bool
  | [] => true
  | item :: items => item.isCarriedWith isFit && areCarriedWith isFit items

def areCarriedMembersWith (isFit : JsonText → Bool) : List (JsonText × Json) → Bool
  | [] => true
  | (name, value) :: members =>
    isFit name && value.isCarriedWith isFit && areCarriedMembersWith isFit members

end

-- Whether JSON text carries a value as it is.
def isCarried (v : Json) : Bool :=
  v.isCarriedWith JsonText.isUnpaired

def isExact (v : Json) : Bool :=
  v.isCarriedWith (·.string?.isSome)

theorem areCarriedMembersWith_iff {isFit : JsonText → Bool} {members : List (JsonText × Json)} :
    areCarriedMembersWith isFit members = true ↔
      ∀ member ∈ members, isFit member.1 = true ∧ member.2.isCarriedWith isFit = true := by
  induction members
  case nil => simp [areCarriedMembersWith]
  case cons member members hi => simp [areCarriedMembersWith, hi]

-- A value that passes a test passes a milder one.
mutual

theorem isCarriedWith_of_imp {isFit isFit' : JsonText → Bool}
    (h : ∀ t, isFit t = true → isFit' t = true) : ∀ {v : Json}, v.isCarriedWith isFit = true →
      v.isCarriedWith isFit' = true
  | .null, _ => rfl
  | .bool _, _ => rfl
  | .int _, hv => hv
  | .float _, hv => hv
  | .text t, hv => h t hv
  | .array items, hv => areCarriedWith_of_imp h hv
  | .object members, hv => by
    simp only [isCarriedWith, Bool.and_eq_true] at hv ⊢
    exact ⟨hv.left, areCarriedMembersWith_of_imp h hv.right⟩

theorem areCarriedWith_of_imp {isFit isFit' : JsonText → Bool}
    (h : ∀ t, isFit t = true → isFit' t = true) : ∀ {items : List Json},
      areCarriedWith isFit items = true → areCarriedWith isFit' items = true
  | [], _ => rfl
  | item :: items, hv => by
    simp only [areCarriedWith, Bool.and_eq_true] at hv ⊢
    exact ⟨isCarriedWith_of_imp h hv.left, areCarriedWith_of_imp h hv.right⟩

theorem areCarriedMembersWith_of_imp {isFit isFit' : JsonText → Bool}
    (h : ∀ t, isFit t = true → isFit' t = true) : ∀ {members : List (JsonText × Json)},
      areCarriedMembersWith isFit members = true → areCarriedMembersWith isFit' members = true
  | [], _ => rfl
  | (name, value) :: members, hv => by
    simp only [areCarriedMembersWith, Bool.and_eq_true] at hv ⊢
    exact ⟨⟨h name hv.left.left, isCarriedWith_of_imp h hv.left.right⟩,
      areCarriedMembersWith_of_imp h hv.right⟩

end

theorem isUnpaired_of_string? {t : JsonText} (h : t.string?.isSome = true) :
    t.isUnpaired = true := by
  have ⟨s, hs⟩ := Option.isSome_iff_exists.mp h
  rw [JsonText.string?_eq_some.mp hs]
  exact JsonText.isUnpaired_plain s

theorem isCarried_of_isExact {v : Json} (h : v.isExact = true) : v.isCarried = true :=
  isCarriedWith_of_imp (fun _ => isUnpaired_of_string?) h

mutual

def isFloatFree : Json → Bool
  | .float _ => false
  | .array items => areFloatFree items
  | .object members => areFloatFreeMembers members
  | _ => true

def areFloatFree : List Json → Bool
  | [] => true
  | item :: items => item.isFloatFree && areFloatFree items

def areFloatFreeMembers : List (JsonText × Json) → Bool
  | [] => true
  | (_, value) :: members => value.isFloatFree && areFloatFreeMembers members

end

mutual

-- The count of the digits of the first number in a value that has too many of them.
def tooLong? : Json → Option Nat
  | .int n => overlong? n.natAbs
  | .array items => itemsTooLong? items
  | .object members => membersTooLong? members
  | _ => none

def itemsTooLong? : List Json → Option Nat
  | [] => none
  | item :: items => item.tooLong?.or (itemsTooLong? items)

def membersTooLong? : List (JsonText × Json) → Option Nat
  | [] => none
  | (_, value) :: members => value.tooLong?.or (membersTooLong? members)

end

mutual

def reread : Json → Json
  | .text t => .text t.paired
  | .array items => .array (rereadItems items)
  | .object members => .object (Entries.ofList (rereadMembers members))
  | v => v

def rereadItems : List Json → List Json
  | [] => []
  | item :: items => item.reread :: rereadItems items

def rereadMembers : List (JsonText × Json) → List (JsonText × Json)
  | [] => []
  | (name, value) :: members => (name.paired, value.reread) :: rereadMembers members

end

theorem areFloatFree_iff {items : List Json} :
    areFloatFree items = true ↔ ∀ item ∈ items, item.isFloatFree = true := by
  induction items
  case nil => simp [areFloatFree]
  case cons item items hi => simp [areFloatFree, hi]

theorem areFloatFreeMembers_iff {members : List (JsonText × Json)} :
    areFloatFreeMembers members = true ↔ ∀ member ∈ members, member.2.isFloatFree = true := by
  induction members
  case nil => simp [areFloatFreeMembers]
  case cons member members hi => simp [areFloatFreeMembers, hi]

theorem itemsTooLong?_eq_none_iff {items : List Json} :
    itemsTooLong? items = none ↔ ∀ item ∈ items, item.tooLong? = none := by
  induction items
  case nil => simp [itemsTooLong?]
  case cons item items hi => simp [itemsTooLong?, hi]

theorem membersTooLong?_eq_none_iff {members : List (JsonText × Json)} :
    membersTooLong? members = none ↔ ∀ member ∈ members, member.2.tooLong? = none := by
  induction members
  case nil => simp [membersTooLong?]
  case cons member members hi => simp [membersTooLong?, hi]

theorem rereadItems_eq (items : List Json) : rereadItems items = items.map reread := by
  induction items
  case nil => rfl
  case cons item items hi => rw [rereadItems, hi, List.map_cons]

theorem rereadMembers_eq (members : List (JsonText × Json)) :
    rereadMembers members = members.map (Prod.map JsonText.paired reread) := by
  induction members
  case nil => rfl
  case cons member members hi => rw [rereadMembers, hi, List.map_cons, Prod.map]

-- Separators are a comma and a colon, with nothing but space after them.
structure Separators.AreBlank (sep : Separators) : Prop where
  item   : ∃ space, sep.item = ',' :: space ∧ ∀ c ∈ space, isSpace c = true
  member : ∃ space, sep.member = ':' :: space ∧ ∀ c ∈ space, isSpace c = true

theorem areBlank_spaced : Separators.spaced.AreBlank where
  item   := ⟨[' '], rfl, by simp [isSpace]⟩
  member := ⟨[' '], rfl, by simp [isSpace]⟩

theorem areBlank_compact : Separators.compact.AreBlank where
  item   := ⟨[], rfl, by simp⟩
  member := ⟨[], rfl, by simp⟩

theorem skipSpace_append {space : List Char} (h : ∀ c ∈ space, isSpace c = true) (s : List Char) :
    skipSpace (space ++ s) = skipSpace s :=
  List.dropWhile_append_of_pos h

theorem skipSpace_cons {c : Char} (h : isSpace c = false) (s : List Char) :
    skipSpace (c :: s) = c :: s := by
  simp [skipSpace, h]

-- The first character of a value: no space, no mark, and none that ends a list.
def startsValue (c : Char) : Bool :=
  !isSpace c && c != ']' && c != '\uFEFF'

theorem startsValue_of_isDigit {c : Char} (h : isDigit c = true) : startsValue c = true := by
  cases hs : startsValue c
  case true => rfl
  case false =>
    simp only [startsValue, isSpace, Bool.and_eq_false_iff, Bool.not_eq_false', Bool.or_eq_true,
      decide_eq_true_eq, bne_eq_false_iff_eq] at hs
    rcases hs with ((((rfl | rfl) | rfl) | rfl) | rfl) | rfl <;>
      simp [isDigit, Percent.isAsciiDigit] at h

theorem print_eq_cons {v : Json} (sep : Separators) (h : v.isFloatFree = true) :
    ∃ c cs, v.print sep = c :: cs ∧ startsValue c = true := by
  cases v
  case null => exact ⟨_, _, rfl, rfl⟩
  case bool b => cases b <;> exact ⟨_, _, rfl, rfl⟩
  case int n =>
    have ⟨c, cs, he, hc⟩ := repr_eq_cons n
    refine ⟨c, cs, he, ?_⟩
    rcases hc with rfl | hc
    case inl => rfl
    case inr => exact startsValue_of_isDigit hc
  case float => simp [isFloatFree] at h
  case text t => exact ⟨_, _, rfl, rfl⟩
  case array items => cases items <;> exact ⟨_, _, rfl, rfl⟩
  case object members => cases members <;> exact ⟨_, _, rfl, rfl⟩

theorem skipSpace_print {v : Json} (sep : Separators) (h : v.isFloatFree = true) (s : List Char) :
    skipSpace (v.print sep ++ s) = v.print sep ++ s := by
  have ⟨c, cs, he, hc⟩ := print_eq_cons sep h
  rw [he, List.cons_append, skipSpace_cons]
  simp only [startsValue, Bool.and_eq_true, Bool.not_eq_true'] at hc
  exact hc.left.left

theorem readValue_repr {fuel room : Nat} (n : Int) (h : endsValue rest = true) :
    readValue (fuel + 1) room (n.repr.toList ++ rest) =
      reading (overlong? n.natAbs) (.int n) rest := by
  rw [← readScalar_repr n h]
  have ⟨c, cs, he, hc⟩ := repr_eq_cons n
  rw [he, List.cons_append]
  have hq : c ≠ '"' ∧ c ≠ '[' ∧ c ≠ '\x7b' := by
    rcases hc with rfl | hc
    case inl => decide
    case inr => refine ⟨?_, ?_, ?_⟩ <;> rintro rfl <;> exact absurd hc (by decide)
  rw [readValue.eq_def]
  dsimp only
  split <;> simp_all

variable {sep : Separators}

section

variable (hs : sep.AreBlank)
include hs

theorem endsValue_printItems (items : List Json) (rest : List Char) :
    endsValue (printItems sep items ++ rest) = true := by
  have ⟨_, he, _⟩ := hs.item
  cases items <;> simp [printItems, he, endsValue]

theorem endsValue_printMembers (members : List (JsonText × Json)) (rest : List Char) :
    endsValue (printMembers sep members ++ rest) = true := by
  have ⟨_, he, _⟩ := hs.item
  cases members <;> simp [printMembers, he, endsValue]

-- What follows an item is looked at without the space before it, of which there is none.
theorem readItems_cons {fuel room : Nat} {item : Json} {items : List Json} {s : List Char}
    (hi : readValue fuel room s =
      reading item.tooLong? item.reread (printItems sep items ++ rest))
    (hr : ∀ next more, items = next :: more →
      readItems fuel room (skipSpace (next.print sep ++ (printItems sep more ++ rest))) =
        reading (itemsTooLong? items) (rereadItems items) rest) :
    readItems (fuel + 1) room s =
      reading (itemsTooLong? (item :: items)) (rereadItems (item :: items)) rest := by
  have ⟨space, he, hb⟩ := hs.item
  rw [readItems, hi, itemsTooLong?, rereadItems]
  cases item.tooLong?
  case some => rfl
  case none =>
    rw [Option.none_or, reading]
    cases items
    case nil =>
      simp [printItems, skipSpace_cons (show isSpace ']' = false by decide), itemsTooLong?,
        rereadItems, reading]
    case cons next more =>
      simp only [printItems, he, List.cons_append, List.append_assoc, skipSpace_append hb,
        skipSpace_cons (show isSpace ',' = false by decide), hr next more rfl]
      cases itemsTooLong? (next :: more) <;> rfl

theorem readMembers_cons {fuel room : Nat} {name : JsonText} {value : Json}
    {members : List (JsonText × Json)} (hv : value.isFloatFree = true)
    (hi : readValue fuel room (value.print sep ++ (printMembers sep members ++ rest)) =
      reading value.tooLong? value.reread (printMembers sep members ++ rest))
    (hr : ∀ name value more, members = (name, value) :: more →
      readMembers fuel room (skipSpace (printText name ++ (sep.member ++ (value.print sep ++
        (printMembers sep more ++ rest))))) =
        reading (membersTooLong? members) (rereadMembers members) rest) :
    readMembers (fuel + 1) room (printText name ++ (sep.member ++ (value.print sep ++
      (printMembers sep members ++ rest)))) =
      reading (membersTooLong? ((name, value) :: members))
        (rereadMembers ((name, value) :: members)) rest := by
  have ⟨space, he, hb⟩ := hs.item
  have ⟨space', he', hb'⟩ := hs.member
  have ⟨cs, hq⟩ := printText_eq_cons name
  have ht := readText_printText name (sep.member ++ (value.print sep ++
    (printMembers sep members ++ rest)))
  rw [hq, List.cons_append] at ht ⊢
  rw [readMembers, ht, he', membersTooLong?, rereadMembers]
  simp only [List.cons_append, skipSpace_cons (show isSpace ':' = false by decide),
    skipSpace_append hb', skipSpace_print sep hv, hi]
  cases value.tooLong?
  case some => rfl
  case none =>
    rw [Option.none_or, reading]
    cases members
    case nil =>
      simp [printMembers, skipSpace_cons (show isSpace '\x7d' = false by decide),
        membersTooLong?, rereadMembers, reading]
    case cons next more =>
      have ⟨name', value'⟩ := next
      simp only [printMembers, he, List.cons_append, List.append_assoc, skipSpace_append hb,
        skipSpace_cons (show isSpace ',' = false by decide), hr name' value' more rfl]
      cases membersTooLong? ((name', value') :: more) <;> rfl

theorem length_printItems_pos (items : List Json) : 0 < (printItems sep items).length := by
  have ⟨_, he, _⟩ := hs.item
  cases items <;> simp [printItems, he]

theorem length_printMembers_pos (members : List (JsonText × Json)) :
    0 < (printMembers sep members).length := by
  have ⟨_, he, _⟩ := hs.item
  cases members <;> simp [printMembers, he]

end

-- The induction is on the value that is printed. The fuel counts the characters that are left, and
-- every item and member is followed by at least one.
mutual

theorem readValue_print (hs : sep.AreBlank) : ∀ (v : Json) (fuel room : Nat) (rest : List Char),
    v.isFloatFree = true → v.depth ≤ room → (v.print sep).length ≤ fuel →
    endsValue rest = true →
    readValue fuel room (v.print sep ++ rest) = reading v.tooLong? v.reread rest
  | v, 0, _, _, he, _, hf, _ => by
    have ⟨_, _, hp, _⟩ := print_eq_cons sep he
    simp [hp] at hf
  | .null, fuel + 1, _, _, _, _, _, _ => rfl
  | .bool true, fuel + 1, _, _, _, _, _, _ => rfl
  | .bool false, fuel + 1, _, _, _, _, _, _ => rfl
  | .int n, fuel + 1, _, _, _, _, _, hr => readValue_repr n hr
  | .float _, _, _, _, he, _, _, _ => by simp [isFloatFree] at he
  | .text t, fuel + 1, _, rest, _, _, _, _ => by
    have ⟨cs, hq⟩ := printText_eq_cons t
    have ht := readText_printText t rest
    rw [print, hq, List.cons_append] at *
    rw [readValue, ht, Except.map]
    rfl
  | .array _, fuel + 1, 0, _, _, hd, _, _ => by simp [depth] at hd
  | .array [], fuel + 1, room + 1, _, _, _, _, _ => rfl
  | .array (item :: items), fuel + 1, room + 1, rest, he, hd, hf, hr => by
    simp only [isFloatFree, areFloatFree, Bool.and_eq_true] at he
    simp only [depth, itemsDepth, Nat.add_le_add_iff_right, Nat.max_le] at hd
    simp only [print, List.length_cons, List.length_append] at hf
    have ⟨c, cs, hp, hc⟩ := print_eq_cons sep he.left
    have hb : c ≠ ']' := by
      rintro rfl
      simp [startsValue] at hc
    have hi := readItems_print hs items fuel room rest he.right hd.right item
      he.left (by omega) (fun fuel rest => readValue_print hs item fuel room rest he.left hd.left)
    have hk := skipSpace_print sep he.left (printItems sep items ++ rest)
    simp only [print, List.cons_append, List.append_assoc, readValue, hk]
    rw [hp, List.cons_append] at hi ⊢
    simp only [List.cons.injEq, hb, false_and, imp_self, implies_true, hi]
    exact map_reading Json.array _ _
  | .object _, fuel + 1, 0, _, _, hd, _, _ => by simp [depth] at hd
  | .object [], fuel + 1, room + 1, _, _, _, _, _ => rfl
  | .object ((name, value) :: members), fuel + 1, room + 1, rest, he, hd, hf, hr => by
    simp only [isFloatFree, areFloatFreeMembers, Bool.and_eq_true] at he
    simp only [depth, membersDepth, Nat.add_le_add_iff_right, Nat.max_le] at hd
    simp only [print, List.length_cons, List.length_append] at hf
    have hm := readMembers_print hs members fuel room rest he.right hd.right name
      value he.left (by omega) (fun fuel rest =>
        readValue_print hs value fuel room rest he.left hd.left)
    have ⟨cs, hq⟩ := printText_eq_cons name
    simp only [print, readValue, hq, List.cons_append, List.append_assoc,
      skipSpace_cons (show isSpace '"' = false by decide)] at hm ⊢
    simp only [List.cons.injEq, Char.reduceEq, false_and, imp_self, implies_true, hm]
    exact map_reading (fun members => Json.object (Entries.ofList members)) _ _

theorem readItems_print (hs : sep.AreBlank) : ∀ (items : List Json) (fuel room : Nat)
    (rest : List Char), areFloatFree items = true → itemsDepth items ≤ room →
    ∀ item : Json, item.isFloatFree = true →
    (item.print sep).length + (printItems sep items).length ≤ fuel →
    (∀ (fuel : Nat) (rest : List Char), (item.print sep).length ≤ fuel → endsValue rest = true →
      readValue fuel room (item.print sep ++ rest) = reading item.tooLong? item.reread rest) →
    readItems fuel room (item.print sep ++ (printItems sep items ++ rest)) =
      reading (itemsTooLong? (item :: items)) (rereadItems (item :: items)) rest
  | items, 0, _, _, _, _, item, _, hf, _ => by
    have := length_printItems_pos hs items
    omega
  | [], fuel + 1, room, rest, _, _, item, he, hf, hi => by
    have hf : (item.print sep).length ≤ fuel := by
      simp only [printItems, List.length_singleton] at hf
      omega
    exact readItems_cons hs (hi _ _ hf (endsValue_printItems hs [] rest)) (by simp)
  | next :: more, fuel + 1, room, rest, hm, hd, item, he, hf, hi => by
    have ⟨space, hc, _⟩ := hs.item
    simp only [areFloatFree, Bool.and_eq_true] at hm
    simp only [itemsDepth, Nat.max_le] at hd
    simp only [printItems, hc, List.length_append, List.length_cons] at hf
    refine readItems_cons hs (hi _ _ (by omega) (endsValue_printItems hs (next :: more) rest)) ?_
    rintro _ _ ⟨⟩
    rw [skipSpace_print sep hm.left]
    exact readItems_print hs more fuel room rest hm.right hd.right next hm.left (by omega)
      (fun fuel rest => readValue_print hs next fuel room rest hm.left hd.left)

theorem readMembers_print (hs : sep.AreBlank) : ∀ (members : List (JsonText × Json))
    (fuel room : Nat) (rest : List Char), areFloatFreeMembers members = true →
    membersDepth members ≤ room →
    ∀ (name : JsonText) (value : Json), value.isFloatFree = true →
    (value.print sep).length + (printMembers sep members).length ≤ fuel →
    (∀ (fuel : Nat) (rest : List Char), (value.print sep).length ≤ fuel → endsValue rest = true →
      readValue fuel room (value.print sep ++ rest) =
        reading value.tooLong? value.reread rest) →
    readMembers fuel room (printText name ++ (sep.member ++ (value.print sep ++
      (printMembers sep members ++ rest)))) =
      reading (membersTooLong? ((name, value) :: members))
        (rereadMembers ((name, value) :: members)) rest
  | members, 0, _, _, _, _, _, value, _, hf, _ => by
    have := length_printMembers_pos hs members
    omega
  | [], fuel + 1, room, rest, _, _, name, value, he, hf, hv => by
    have hf : (value.print sep).length ≤ fuel := by
      simp only [printMembers, List.length_singleton] at hf
      omega
    exact readMembers_cons hs he (hv _ _ hf (endsValue_printMembers hs [] rest)) (by simp)
  | (next, nextValue) :: more, fuel + 1, room, rest, hm, hd, name, value, he, hf, hv => by
    have ⟨space, hc, _⟩ := hs.item
    simp only [areFloatFreeMembers, Bool.and_eq_true] at hm
    simp only [membersDepth, Nat.max_le] at hd
    simp only [printMembers, hc, List.length_append, List.length_cons] at hf
    refine readMembers_cons hs he
      (hv _ _ (by omega) (endsValue_printMembers hs ((next, nextValue) :: more) rest)) ?_
    rintro _ _ _ ⟨⟩
    have hr := readMembers_print hs more fuel room rest hm.right hd.right next nextValue
      hm.left (by omega) (fun fuel rest =>
        readValue_print hs nextValue fuel room rest hm.left hd.left)
    have ⟨cs, hq⟩ := printText_eq_cons next
    rw [hq] at hr ⊢
    rwa [List.cons_append, skipSpace_cons (show isSpace '"' = false by decide)]

end

-- Printed text has neither a mark nor space in front.
theorem print_start (sep : Separators) {v : Json} (he : v.isFloatFree = true) :
    (v.print sep).head? ≠ some '\uFEFF' ∧ skipSpace (v.print sep) = v.print sep := by
  have ⟨c, cs, hp, hc⟩ := print_eq_cons sep he
  simp only [startsValue, Bool.and_eq_true, bne_iff_ne] at hc
  have hk := skipSpace_print sep he []
  rw [List.append_nil] at hk
  exact ⟨by simpa [hp] using hc.right, hk⟩

theorem readAll_print (hs : sep.AreBlank) {v : Json} {room : Nat} (he : v.isFloatFree = true)
    (hd : v.depth ≤ room) :
    readAll room (v.print sep) = (reading v.tooLong? v.reread []).map Prod.fst := by
  have ⟨hm, hk⟩ := print_start sep he
  have hr := readValue_print hs v (2 * (v.print sep).length + 1) room [] he hd (by omega) rfl
  rw [List.append_nil] at hr
  rw [readAll, if_neg hm, hk, hr]
  cases v.tooLong? <;> rfl

theorem overlong?_eq_none_iff {n : Int} :
    overlong? n.natAbs = none ↔ Text.isOverlong n = false := by
  simp [overlong?, Text.isOverlong]

mutual

theorem rereads_of_isCarriedWith : ∀ {v : Json}, v.isCarriedWith JsonText.isUnpaired = true →
    v.isFloatFree = true ∧ v.tooLong? = none ∧ v.reread = v
  | .null, _ => ⟨rfl, rfl, rfl⟩
  | .bool _, _ => ⟨rfl, rfl, rfl⟩
  | .int n, h => by
    rw [isCarriedWith, Bool.not_eq_true'] at h
    exact ⟨rfl, overlong?_eq_none_iff.mpr h, rfl⟩
  | .float _, h => by simp [isCarriedWith] at h
  | .text t, h => ⟨rfl, rfl, by rw [reread, JsonText.paired_of_isUnpaired h]⟩
  | .array items, h => by
    have ⟨hf, ht, hr⟩ := rereads_of_areCarriedWith h
    exact ⟨hf, ht, by rw [reread, hr]⟩
  | .object members, h => by
    simp only [isCarriedWith, Bool.and_eq_true, decide_eq_true_eq] at h
    have ⟨hf, ht, hr⟩ := rereads_of_areCarriedMembersWith h.right
    exact ⟨hf, ht, by rw [reread, hr, Entries.ofList_of_nodup h.left]⟩

theorem rereads_of_areCarriedWith : ∀ {items : List Json},
    areCarriedWith JsonText.isUnpaired items = true →
    areFloatFree items = true ∧ itemsTooLong? items = none ∧ rereadItems items = items
  | [], _ => ⟨rfl, rfl, rfl⟩
  | item :: items, h => by
    simp only [areCarriedWith, Bool.and_eq_true] at h
    have ⟨hf, ht, hr⟩ := rereads_of_isCarriedWith h.left
    have ⟨hf', ht', hr'⟩ := rereads_of_areCarriedWith h.right
    simp [areFloatFree, itemsTooLong?, rereadItems, hf, ht, hr, hf', ht', hr']

theorem rereads_of_areCarriedMembersWith : ∀ {members : List (JsonText × Json)},
    areCarriedMembersWith JsonText.isUnpaired members = true →
    areFloatFreeMembers members = true ∧ membersTooLong? members = none ∧
      rereadMembers members = members
  | [], _ => ⟨rfl, rfl, rfl⟩
  | (name, value) :: members, h => by
    simp only [areCarriedMembersWith, Bool.and_eq_true] at h
    have ⟨hf, ht, hr⟩ := rereads_of_isCarriedWith h.left.right
    have ⟨hf', ht', hr'⟩ := rereads_of_areCarriedMembersWith h.right
    simp [areFloatFreeMembers, membersTooLong?, rereadMembers, hf, ht, hr, hf', ht', hr',
      JsonText.paired_of_isUnpaired h.left.left]

end

theorem rereads_of_isCarried {v : Json} (h : v.isCarried = true) :
    v.isFloatFree = true ∧ v.tooLong? = none ∧ v.reread = v :=
  rereads_of_isCarriedWith h

end DocStore.Json
