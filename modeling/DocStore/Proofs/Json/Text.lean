import DocStore.Json.Printer
import DocStore.Json.Reader
import Mathlib.Data.List.Chain

namespace DocStore

namespace Text.Hex

theorem value?_lowerDigit {n : Nat} (h : n < 16) : value? (lowerDigit n) = some n := by
  suffices ∀ m : Fin 16, value? (lowerDigit m) = some m.val from this ⟨n, h⟩
  decide

theorem number?_fixed {n : Nat} (h : n < 0x10000) : number? (fixed 4 n) = some n := by
  have h₁ := value?_lowerDigit (show n / 16 / 16 / 16 % 16 < 16 by omega)
  have h₂ := value?_lowerDigit (show n / 16 / 16 % 16 < 16 by omega)
  have h₃ := value?_lowerDigit (show n / 16 % 16 < 16 by omega)
  have h₄ := value?_lowerDigit (show n % 16 < 16 by omega)
  simp [fixed, number?, h₁, h₂, h₃, h₄]
  omega

end Text.Hex

namespace Json

variable {opening rest : List Char}

theorem unit?_fixed {n : Nat} (h : n < 0x10000) (hr : rest ≠ []) :
    unit? (Text.Hex.fixed 4 n ++ rest) = some (n, rest) := by
  have hn := Text.Hex.number?_fixed h
  simp only [Text.Hex.fixed, List.nil_append, List.cons_append] at hn ⊢
  simp [unit?, hr, hn]

theorem readPoint_escapeUnit (n : Nat) :
    readPoint opening (escapeUnit n ++ rest) =
      readUnicode ('u' :: (Text.Hex.fixed 4 n ++ rest)) :=
  rfl

-- A unit that is no high surrogate stands for itself, whatever comes after it.
theorem readUnicode_fixed {n : Nat} (h : n < 0x10000) (hs : isHighSurrogate n = false)
    (hr : rest ≠ []) :
    readUnicode ('u' :: (Text.Hex.fixed 4 n ++ rest)) = .ok (.ofUnit n, rest) := by
  unfold readUnicode
  rw [List.drop_one, List.tail_cons, unit?_fixed h hr]
  dsimp only
  split
  case h_1 => simp [hs]
  case h_2 => rfl

theorem readUnicode_pair {m n : Nat} (hm : isHighSurrogate m = true) (hn : isLowSurrogate n = true)
    (hr : rest ≠ []) :
    readUnicode ('u' :: (Text.Hex.fixed 4 m ++ (escapeUnit n ++ rest))) =
      .ok (.char (charOfPair m n), rest) := by
  have hm' : m < 0x10000 := by simp [isHighSurrogate] at hm; omega
  have hn' : n < 0x10000 := by simp [isLowSurrogate] at hn; omega
  rw [readUnicode, List.drop_one, List.tail_cons, unit?_fixed hm' (by simp [escapeUnit])]
  simp [escapeUnit, hm, Text.Hex.length_fixed, List.length_pos_iff.mpr hr, unit?_fixed hn' hr, hn]

theorem ofUnit_toNat {c : Char} (h : c.toNat < 0x10000) : CodePoint.ofUnit c.toNat = .char c := by
  have hv : c.toNat < 0xD800 ∨ 0xDFFF < c.toNat ∧ c.toNat < 0x110000 := c.valid
  have hs : ¬(CodePoint.firstSurrogate ≤ c.toNat ∧ c.toNat < CodePoint.firstSurrogate + 0x800) := by
    simp only [CodePoint.firstSurrogate]
    omega
  simp [CodePoint.ofUnit, hs]

theorem isHighSurrogate_toNat (c : Char) : isHighSurrogate c.toNat = false := by
  have hv : c.toNat < 0xD800 ∨ 0xDFFF < c.toNat ∧ c.toNat < 0x110000 := c.valid
  simp only [isHighSurrogate, Bool.and_eq_false_iff, decide_eq_false_iff_not]
  omega

theorem readPoint_escapeCodePoint (c : Char) (hr : rest ≠ []) :
    readPoint opening (escapeCodePoint c ++ rest) = .ok (.char c, rest) := by
  have hv : c.toNat < 0xD800 ∨ 0xDFFF < c.toNat ∧ c.toNat < 0x110000 := c.valid
  unfold escapeCodePoint
  dsimp only
  split
  case isTrue h =>
    rw [readPoint_escapeUnit, readUnicode_fixed h (isHighSurrogate_toNat c) hr, ofUnit_toNat h]
  case isFalse h =>
    have hm : isHighSurrogate (0xD800 + (c.toNat - 0x10000) / 0x400) = true := by
      simp only [isHighSurrogate, Bool.and_eq_true, decide_eq_true_eq]
      omega
    have hn : isLowSurrogate (0xDC00 + (c.toNat - 0x10000) % 0x400) = true := by
      simp only [isLowSurrogate, Bool.and_eq_true, decide_eq_true_eq]
      omega
    have hc : 0x10000 + (0xD800 + (c.toNat - 0x10000) / 0x400 - 0xD800) * 0x400 +
        (0xDC00 + (c.toNat - 0x10000) % 0x400 - 0xDC00) = c.toNat := by omega
    rw [List.append_assoc, readPoint_escapeUnit, readUnicode_pair hm hn hr, charOfPair, hc,
      Char.ofNat_toNat]

theorem readPoint_self {c : Char} (hq : c ≠ '\\') (hs : ' ' ≤ c) :
    readPoint opening (c :: rest) = .ok (.char c, rest) := by
  rw [readPoint.eq_def]
  have hl : ¬c < ' ' := Char.not_lt.mpr hs
  split <;> simp_all

-- What is printed for a character: a short escape, the character alone, or its number.
theorem escapeChar_cases (c : Char) :
    (∃ e, escapeChar c = ['\\', e] ∧
      ∀ opening rest, readPoint opening ('\\' :: e :: rest) = .ok (.char c, rest)) ∨
    (escapeChar c = [c] ∧ c ≠ '"' ∧ c ≠ '\\' ∧ ' ' ≤ c) ∨
    escapeChar c = escapeCodePoint c := by
  unfold escapeChar
  split
  case isTrue h => rcases h with rfl | rfl <;> exact .inl ⟨_, rfl, fun _ _ => rfl⟩
  case isFalse hq =>
    have ⟨hq, hb⟩ := not_or.mp hq
    repeat' split
    iterate 5 next h => exact .inl ⟨_, rfl, fun _ _ => h ▸ rfl⟩
    case _ h => exact .inr <| .inl ⟨rfl, hq, hb, h.left⟩
    case _ => exact .inr <| .inr rfl

theorem readPoint_escapeChar (c : Char) (hr : rest ≠ []) :
    readPoint opening (escapeChar c ++ rest) = .ok (.char c, rest) := by
  rcases escapeChar_cases c with ⟨e, he, hp⟩ | ⟨he, _, hb, hs⟩ | he
  case inl => exact he ▸ hp opening rest
  case inr.inl => exact he ▸ readPoint_self hb hs
  case inr.inr => exact he ▸ readPoint_escapeCodePoint c hr

theorem escapeChar_eq_cons (c : Char) : ∃ d ds, escapeChar c = d :: ds ∧ d ≠ '"' := by
  rcases escapeChar_cases c with ⟨e, he, _⟩ | ⟨he, hq, _⟩ | he
  case inl => exact ⟨_, _, he, by decide⟩
  case inr.inl => exact ⟨_, _, he, hq⟩
  case inr.inr =>
    rw [he, escapeCodePoint]
    split <;> exact ⟨_, _, rfl, by decide⟩

-- Whether two code points are surrogates that are read as one character.
def isPair (p q : CodePoint) : Bool :=
  isHighSurrogate p.code && isLowSurrogate q.code

theorem code_surrogate_lt (place : Fin 0x800) : (CodePoint.surrogate place).code < 0x10000 := by
  have := place.isLt
  simp only [CodePoint.code, CodePoint.firstSurrogate]
  omega

theorem ofUnit_code (place : Fin 0x800) :
    CodePoint.ofUnit (CodePoint.surrogate place).code = .surrogate place := by
  have hp := place.isLt
  simp [CodePoint.ofUnit, CodePoint.code, hp]

-- An escape by number that is printed for a code point spells a low surrogate only if the code
-- point is one: of the two escapes for one character the high surrogate comes first.
theorem unit?_of_escapePoint {p : CodePoint} {second : List Char}
    (h : escapePoint p ++ rest = '\\' :: 'u' :: second) (hr : rest ≠ []) :
    ∃ n more, unit? second = some (n, more) ∧
      (isLowSurrogate n = true → isLowSurrogate p.code = true) := by
  have hu {n : Nat} {tail : List Char} (hn : n < 0x10000) (ht : tail ≠ [])
      (he : escapeUnit n ++ tail = '\\' :: 'u' :: second) :
      unit? second = some (n, tail) := by
    rw [← unit?_fixed hn ht]
    simp only [escapeUnit, List.cons_append, List.cons.injEq, true_and] at he
    rw [he]
  cases p
  case surrogate place => exact ⟨_, _, hu (code_surrogate_lt place) hr h, id⟩
  case char c =>
    simp only [escapePoint, escapeChar] at h
    split at h
    case isTrue hc => rcases hc with rfl | rfl <;> simp at h
    case isFalse hc =>
      repeat' split at h
      iterate 5 next => simp at h
      case _ =>
        simp only [List.cons_append, List.nil_append, List.cons.injEq] at h
        exact absurd (.inr h.left) hc
      case _ =>
        unfold escapeCodePoint at h
        dsimp only at h
        split at h
        case isTrue hl => exact ⟨_, _, hu hl hr h, id⟩
        case isFalse hl =>
          have hv : c.toNat < 0xD800 ∨ 0xDFFF < c.toNat ∧ c.toNat < 0x110000 := c.valid
          rw [List.append_assoc] at h
          refine ⟨_, _, hu (by omega) (by simp [escapeUnit]) h, fun hn => ?_⟩
          simp only [isLowSurrogate, Bool.and_eq_true, decide_eq_true_eq] at hn
          omega

-- A surrogate stands for itself if it makes no pair with what comes next.
theorem readPoint_surrogate {place : Fin 0x800} (hr : rest ≠ [])
    (h : ∀ second, rest = '\\' :: 'u' :: second → ∃ n more, unit? second = some (n, more) ∧
      (isLowSurrogate n && isHighSurrogate (CodePoint.surrogate place).code) = false) :
    readPoint opening (escapePoint (.surrogate place) ++ rest) =
      .ok (.surrogate place, rest) := by
  have hl := code_surrogate_lt place
  cases hs : isHighSurrogate (CodePoint.surrogate place).code
  case false =>
    rw [escapePoint, readPoint_escapeUnit, readUnicode_fixed hl hs hr, ofUnit_code]
    rintro _ ⟨⟩
  case true =>
    rw [escapePoint, readPoint_escapeUnit, readUnicode, List.drop_one, List.tail_cons,
      unit?_fixed hl hr]
    · dsimp only
      split
      case h_1 second =>
        obtain ⟨n, more, hn, hp⟩ := h second rfl
        rw [hs, Bool.and_true] at hp
        simp [hn, hp, ofUnit_code]
      case h_2 => rw [ofUnit_code]
    · rintro _ ⟨⟩

-- What is printed for a text is read point by point, where a point makes no pair with the next one.
theorem readPoint_escapePoint {p : CodePoint} {points : List CodePoint}
    (h : ∀ q ∈ points.head?, isPair p q = false) :
    readPoint opening (escapePoint p ++ (points.flatMap escapePoint ++ '"' :: rest)) =
      .ok (p, points.flatMap escapePoint ++ '"' :: rest) := by
  cases p
  case char c => exact readPoint_escapeChar c (by simp)
  case surrogate place =>
    refine readPoint_surrogate (by simp) fun second hs => ?_
    cases points
    case nil => simp at hs
    case cons q points =>
      rw [List.flatMap_cons, List.append_assoc] at hs
      have ⟨n, more, hn, hl⟩ := unit?_of_escapePoint hs (by simp)
      have hp := h q rfl
      refine ⟨n, more, hn, ?_⟩
      cases hk : isLowSurrogate n
      case false => rfl
      case true => simpa [isPair, hl hk] using hp

theorem isLowSurrogate_toNat (c : Char) : isLowSurrogate c.toNat = false := by
  have hv : c.toNat < 0xD800 ∨ 0xDFFF < c.toNat ∧ c.toNat < 0x110000 := c.valid
  simp only [isLowSurrogate, Bool.and_eq_false_iff, decide_eq_false_iff_not]
  omega

-- The character that a pair of surrogates makes.
def joined (p q : CodePoint) : CodePoint :=
  .char (charOfPair p.code q.code)

theorem readPoint_of_isPair {p q : CodePoint} (h : isPair p q = true) (hr : rest ≠ []) :
    readPoint opening (escapePoint p ++ (escapePoint q ++ rest)) = .ok (joined p q, rest) := by
  have ⟨hp, hq⟩ := Bool.and_eq_true _ _ ▸ h
  cases p <;> cases q
  case surrogate.surrogate => exact readUnicode_pair hp hq hr
  case char.char c _ => simp [CodePoint.code, isHighSurrogate_toNat] at hp
  case char.surrogate c _ => simp [CodePoint.code, isHighSurrogate_toNat] at hp
  case surrogate.char c => simp [CodePoint.code, isLowSurrogate_toNat] at hq

-- Points with the pairs among them joined, from left to right.
def joinPairs : List CodePoint → List CodePoint
  | p :: q :: points =>
    if isPair p q then joined p q :: joinPairs points else p :: joinPairs (q :: points)
  | points => points

theorem joinPairs_of_isChain {points : List CodePoint}
    (h : points.IsChain fun p q => isPair p q = false) : joinPairs points = points := by
  induction points using joinPairs.induct
  case case1 p q points hp _ => simp [(List.isChain_cons_cons.mp h).left] at hp
  case case2 p q points hp hi => rw [joinPairs, if_neg hp, hi (List.isChain_of_isChain_cons h)]
  case case3 points hp =>
    rw [joinPairs]
    exact hp

theorem head?_joinPairs (q : CodePoint) (points : List CodePoint) :
    (joinPairs (q :: points)).head? = some q ∨
      ∃ r, (joinPairs (q :: points)).head? = some (joined q r) := by
  cases points
  case nil => exact .inl rfl
  case cons r points =>
    rw [joinPairs]
    split
    case isTrue => exact .inr ⟨r, rfl⟩
    case isFalse => exact .inl rfl

-- The characters that pairs make are no halves of others.
theorem isChain_joinPairs (points : List CodePoint) :
    (joinPairs points).IsChain fun p q => isPair p q = false := by
  induction points using joinPairs.induct
  case case1 p q points hp hi =>
    rw [joinPairs, if_pos hp, List.isChain_cons]
    exact ⟨fun r _ => by simp [isPair, joined, CodePoint.code, isHighSurrogate_toNat], hi⟩
  case case2 p q points hp hi =>
    rw [joinPairs, if_neg hp, List.isChain_cons]
    refine ⟨fun r hr => ?_, hi⟩
    rcases head?_joinPairs q points with hq | ⟨_, hq⟩
    case inl =>
      cases Option.some.inj <| hq.symm.trans hr
      exact Bool.eq_false_iff.mpr hp
    case inr =>
      cases Option.some.inj <| hq.symm.trans hr
      simp [isPair, joined, CodePoint.code, isLowSurrogate_toNat]
  case case3 points hp =>
    rw [joinPairs]
    · rcases points with _ | ⟨p, _ | ⟨q, points⟩⟩
      · exact .nil
      · exact .singleton p
      · exact (hp p q points rfl).elim
    · exact hp

-- What is printed for a point does not start with the quote that ends its text.
theorem escapePoint_eq_cons (p : CodePoint) : ∃ d ds, escapePoint p = d :: ds ∧ d ≠ '"' := by
  cases p
  case char c => exact escapeChar_eq_cons c
  case surrogate => exact ⟨_, _, rfl, by decide⟩

theorem readPoints_of_readPoint {fuel : Nat} {p q : CodePoint} {more more' : List Char}
    (h : readPoint opening (escapePoint p ++ more) = .ok (q, more')) :
    readPoints opening (fuel + 1) (escapePoint p ++ more) =
      (readPoints opening fuel more').map fun (ps, rest) => (q :: ps, rest) := by
  have ⟨d, ds, he, hd⟩ := escapePoint_eq_cons p
  rw [readPoints]
  · rw [h]
  · simpa [he] using hd

theorem readPoints_flatMap_escapePoint {fuel : Nat} {points : List CodePoint}
    (h : points.length < fuel) :
    readPoints opening fuel (points.flatMap escapePoint ++ '"' :: rest) =
      .ok (joinPairs points, rest) := by
  obtain ⟨fuel, rfl⟩ := Nat.exists_eq_succ_of_ne_zero (Nat.ne_zero_of_lt h)
  induction points using joinPairs.induct generalizing fuel
  case case1 p q points hp hi =>
    simp only [List.length_cons, Nat.succ_lt_succ_iff] at h
    obtain ⟨fuel, rfl⟩ := Nat.exists_eq_succ_of_ne_zero (Nat.ne_zero_of_lt h)
    simp only [List.flatMap_cons, List.append_assoc]
    rw [readPoints_of_readPoint (readPoint_of_isPair hp (by simp)), hi fuel (by omega), joinPairs,
      if_pos hp]
    rfl
  case case2 p q points hp hi =>
    rw [List.length_cons, Nat.succ_lt_succ_iff] at h
    obtain ⟨fuel, rfl⟩ := Nat.exists_eq_succ_of_ne_zero (Nat.ne_zero_of_lt h)
    have hr : readPoint opening (escapePoint p ++ ((q :: points).flatMap escapePoint ++
        '"' :: rest)) = .ok (p, (q :: points).flatMap escapePoint ++ '"' :: rest) :=
      readPoint_escapePoint fun _ hq => Option.some.inj hq ▸ Bool.eq_false_iff.mpr hp
    rw [List.flatMap_cons, List.append_assoc, readPoints_of_readPoint hr, hi fuel h, joinPairs,
      if_neg hp]
    rfl
  case case3 points hp =>
    rw [joinPairs]
    · rcases points with _ | ⟨p, _ | ⟨q, points⟩⟩
      · rfl
      · obtain ⟨fuel, rfl⟩ := Nat.exists_eq_succ_of_ne_zero (Nat.ne_zero_of_lt <|
          Nat.lt_of_succ_lt_succ h)
        have hr : readPoint opening (escapePoint p ++ ([].flatMap escapePoint ++ '"' :: rest)) =
            .ok (p, [].flatMap escapePoint ++ '"' :: rest) := readPoint_escapePoint nofun
        rw [List.flatMap_cons, List.append_assoc, readPoints_of_readPoint hr]
        rfl
      · exact (hp p q points rfl).elim
    · exact hp

theorem length_le_length_flatMap_escapePoint (points : List CodePoint) :
    points.length ≤ (points.flatMap escapePoint).length := by
  induction points
  case nil => simp
  case cons p points hi =>
    have ⟨_, _, he, _⟩ := escapePoint_eq_cons p
    simp only [List.flatMap_cons, he, List.cons_append, List.length_cons, List.length_append]
    omega

end Json

namespace JsonText

-- Whether a text has no pair of surrogates, which would be read as one character.
def isUnpaired (t : JsonText) : Bool :=
  decide (t.points.IsChain fun p q => Json.isPair p q = false)

theorem isUnpaired_plain (s : String) : (plain s).isUnpaired = true := by
  rw [isUnpaired, decide_eq_true_eq, points, List.isChain_map]
  refine List.Pairwise.isChain <| List.pairwise_of_forall fun c _ => ?_
  simp [Json.isPair, CodePoint.code, Json.isHighSurrogate_toNat]

def paired (t : JsonText) : JsonText :=
  ofPoints (Json.joinPairs t.points)

theorem paired_of_isUnpaired {t : JsonText} (h : t.isUnpaired = true) : t.paired = t := by
  rw [isUnpaired, decide_eq_true_eq] at h
  rw [paired, Json.joinPairs_of_isChain h, ofPoints_points]

theorem isUnpaired_paired (t : JsonText) : t.paired.isUnpaired = true := by
  rw [isUnpaired, decide_eq_true_eq, paired, points_ofPoints]
  exact Json.isChain_joinPairs t.points

@[simp] theorem paired_plain (s : String) : (plain s).paired = plain s :=
  paired_of_isUnpaired (isUnpaired_plain s)

end JsonText

namespace Json

theorem printText_eq_cons (t : JsonText) : ∃ cs, printText t = '"' :: cs :=
  ⟨_, rfl⟩

theorem readText_printText (t : JsonText) (rest : List Char) :
    readText (printText t ++ rest) = .ok (t.paired, rest) := by
  have hl := length_le_length_flatMap_escapePoint t.points
  rw [readText, printText]
  simp only [List.cons_append, List.append_assoc, List.nil_append, List.drop_one, List.tail_cons]
  rw [readPoints_flatMap_escapePoint, Except.map, JsonText.paired]
  rw [List.length_append, List.length_cons]
  omega

end Json

end DocStore
