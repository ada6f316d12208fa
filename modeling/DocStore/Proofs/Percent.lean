import DocStore.Percent
import DocStore.Proofs.Utf8

namespace DocStore.Percent

open Text.Hex

theorem value?_upperDigit {n : Nat} (h : n < 16) : value? (upperDigit n) = some n := by
  suffices ∀ m : Fin 16, value? (upperDigit m) = some m.val from this ⟨n, h⟩
  decide

theorem isUnreserved_upperDigit {n : Nat} (h : n < 16) : isUnreserved (upperDigit n) = true := by
  suffices ∀ m : Fin 16, isUnreserved (upperDigit m) = true from this ⟨n, h⟩
  decide

theorem byte?_upperDigit (b : UInt8) :
    byte? (upperDigit (b.toNat / 16)) (upperDigit (b.toNat % 16)) = some b := by
  have hb : b.toNat < 256 := b.toNat_lt
  have he : 16 * (b.toNat / 16) + b.toNat % 16 = b.toNat := Nat.div_add_mod _ _
  rw [byte?, value?_upperDigit (by omega), value?_upperDigit (by omega)]
  show some (UInt8.ofNat (16 * (b.toNat / 16) + b.toNat % 16)) = some b
  rw [he, UInt8.ofNat_toNat]

theorem isAsciiAlphanumeric_of_value? {c : Char} (h : (value? c).isSome = true) :
    isAsciiAlphanumeric c = true := by
  have hc : 48 ≤ c.toNat ∧ c.toNat ≤ 57 ∨ 65 ≤ c.toNat ∧ c.toNat ≤ 70 ∨
      97 ≤ c.toNat ∧ c.toNat ≤ 102 := by
    simp only [value?] at h
    repeat' split at h
    all_goals first | omega | simp at h
  simp only [isAsciiAlphanumeric, isAsciiLetter, isAsciiDigit, Bool.or_eq_true, Bool.and_eq_true,
    decide_eq_true_eq, Char.le_def, UInt32.le_iff_toNat_le]
  change (97 ≤ c.toNat ∧ c.toNat ≤ 122 ∨ 65 ≤ c.toNat ∧ c.toNat ≤ 90) ∨ 48 ≤ c.toNat ∧ c.toNat ≤ 57
  omega

theorem isSome_value?_of_byte? {a b : Char} (h : (byte? a b).isSome = true) :
    (value? a).isSome = true ∧ (value? b).isSome = true := by
  cases ha : value? a <;> cases hb : value? b <;> simp_all [byte?]

theorem isSome_anyScriptByte?_of_byte? {a b : Char} (h : (byte? a b).isSome = true) :
    (anyScriptByte? a b).isSome = true := by
  have ⟨ha, hb⟩ := isSome_value?_of_byte? h
  have ⟨_, ha⟩ := Option.isSome_iff_exists.mp ha
  have ⟨_, hb⟩ := Option.isSome_iff_exists.mp hb
  simp [anyScriptByte?, ha, hb]

theorem anyScriptByte?_upperDigit (b : UInt8) :
    anyScriptByte? (upperDigit (b.toNat / 16)) (upperDigit (b.toNat % 16)) = some b := by
  have hb : b.toNat < 256 := b.toNat_lt
  have h := byte?_upperDigit b
  simp only [byte?, value?_upperDigit (show b.toNat / 16 < 16 by omega),
    value?_upperDigit (show b.toNat % 16 < 16 by omega)] at h
  simpa [anyScriptByte?, value?_upperDigit (show b.toNat / 16 < 16 by omega),
    value?_upperDigit (show b.toNat % 16 < 16 by omega)] using h

theorem isUnreserved_ofNat {n : Nat} (h : 0x80 ≤ n) (hn : n < 256) :
    isUnreserved (Char.ofNat n) = false := by
  suffices ∀ m : Fin 256, 0x80 ≤ m.val → isUnreserved (Char.ofNat m.val) = false from this ⟨n, hn⟩ h
  decide +kernel

theorem isUnreserved_of_isAsciiAlphanumeric {c : Char} (h : isAsciiAlphanumeric c = true) :
    isUnreserved c = true := by
  simp [isUnreserved, h]

theorem ne_percent_of_isUnreserved {c : Char} (h : isUnreserved c = true) : c ≠ '%' := by
  rintro rfl
  revert h
  decide

theorem ne_percent_of_value? {c : Char} (h : (value? c).isSome = true) : c ≠ '%' :=
  ne_percent_of_isUnreserved <| isUnreserved_of_isAsciiAlphanumeric <|
    isAsciiAlphanumeric_of_value? h

theorem bytes_cons_of_ne {c : Char} (h : c ≠ '%') (rest : List Char) :
    bytes (c :: rest) = Utf8.encodeChar c ++ bytes rest := by
  rw [bytes.eq_def]
  split <;> simp_all

@[simp] theorem bytes_escapeByte (b : UInt8) (rest : List Char) :
    bytes (escapeByte b ++ rest) = b :: bytes rest := by
  simp [escapeByte, bytes, byte?_upperDigit]

@[simp] theorem bytes_flatMap_escapeByte (bs : List UInt8) (rest : List Char) :
    bytes (bs.flatMap escapeByte ++ rest) = bs ++ bytes rest := by
  induction bs <;> simp_all [List.append_assoc]

theorem bytes_escapeChar {keep : Char → Bool} (h : keep '%' = false) (c : Char)
    (rest : List Char) :
    bytes (escapeChar keep c ++ rest) = Utf8.encodeChar c ++ bytes rest := by
  unfold escapeChar
  split
  case isTrue hk =>
    have hc : c ≠ '%' := by
      rintro rfl
      simp [h] at hk
    simp [bytes_cons_of_ne hc]
  case isFalse => simp

theorem escapeChar_ne_nil (keep : Char → Bool) (c : Char) : escapeChar keep c ≠ [] := by
  unfold escapeChar
  split
  case isTrue => simp
  case isFalse =>
    simp only [Utf8.encodeChar]
    repeat' split
    all_goals simp [escapeByte]

theorem escape_ne_nil (keep : Char → Bool) {s : List Char} (h : s ≠ []) : escape keep s ≠ [] := by
  cases s
  case nil => exact absurd rfl h
  case cons c s => simp [escape, escapeChar_ne_nil]

theorem wellEscaped_cons_of_ne {c : Char} (h : c ≠ '%') (rest : List Char) :
    wellEscaped (c :: rest) = wellEscaped rest := by
  rw [wellEscaped.eq_def]
  split <;> simp_all

@[simp] theorem wellEscaped_escapeByte (b : UInt8) (rest : List Char) :
    wellEscaped (escapeByte b ++ rest) = wellEscaped rest := by
  simp [escapeByte, wellEscaped, byte?_upperDigit]

@[simp] theorem wellEscaped_flatMap_escapeByte (bs : List UInt8) (rest : List Char) :
    wellEscaped (bs.flatMap escapeByte ++ rest) = wellEscaped rest := by
  induction bs <;> simp_all [List.append_assoc]

theorem wellEscaped_escapeChar {keep : Char → Bool} (h : keep '%' = false) (c : Char)
    (rest : List Char) : wellEscaped (escapeChar keep c ++ rest) = wellEscaped rest := by
  unfold escapeChar
  split
  case isTrue hk =>
    have hc : c ≠ '%' := by
      rintro rfl
      simp [h] at hk
    simp [wellEscaped_cons_of_ne hc]
  case isFalse => simp

theorem wellEscaped_escape {keep : Char → Bool} (h : keep '%' = false) (s : List Char) :
    wellEscaped (escape keep s) = true := by
  induction s
  case nil => rfl
  case cons c s hi =>
    rw [escape] at hi ⊢
    rw [List.flatMap_cons, wellEscaped_escapeChar h, hi]

-- Escapes that are kept stay escapes, as their digits are kept too.
theorem wellEscaped_escape_of_wellEscaped {keep : Char → Bool} {s : List Char}
    (hk : ∀ c, isAsciiAlphanumeric c = true → keep c = true) (hp : keep '%' = true)
    (h : wellEscaped s = true) : wellEscaped (escape keep s) = true := by
  fun_induction wellEscaped s
  case case1 => rfl
  case case2 a b rest hi =>
    have ⟨hb, hr⟩ := Bool.and_eq_true _ _ ▸ h
    have ⟨ha', hb'⟩ := isSome_value?_of_byte? hb
    have ha := hk a (isAsciiAlphanumeric_of_value? ha')
    have hb'' := hk b (isAsciiAlphanumeric_of_value? hb')
    have hi := hi hr
    rw [escape] at hi ⊢
    simp [escapeChar, hp, ha, hb'', wellEscaped, hb, hi]
  case case3 => simp at h
  case case4 c rest _ hc hi =>
    have hc : c ≠ '%' := by simpa using hc
    have hi := hi h
    rw [escape] at hi ⊢
    by_cases hkc : keep c = true <;> simp [escapeChar, hkc, wellEscaped_cons_of_ne hc, hi]

theorem hasBrokenEscape_cons_of_ne {c : Char} (h : c ≠ '%') (rest : List Char) :
    hasBrokenEscape (c :: rest) = hasBrokenEscape rest := by
  rw [hasBrokenEscape.eq_def]
  split <;> simp_all

theorem hasBrokenEscape_of_wellEscaped {s : List Char} (h : wellEscaped s = true) :
    hasBrokenEscape s = false := by
  fun_induction wellEscaped s
  case case1 => rfl
  case case2 a b rest hi =>
    have ⟨hb, hr⟩ := Bool.and_eq_true _ _ ▸ h
    have ⟨ha', hb'⟩ := isSome_value?_of_byte? hb
    simp [hasBrokenEscape, Option.isNone_eq_false_iff.mpr (isSome_anyScriptByte?_of_byte? hb),
      hasBrokenEscape_cons_of_ne (ne_percent_of_value? ha'),
      hasBrokenEscape_cons_of_ne (ne_percent_of_value? hb'), hi hr]
  case case3 => simp at h
  case case4 c rest _ hc hi =>
    rw [hasBrokenEscape_cons_of_ne (by simpa using hc)]
    exact hi h

theorem mem_of_hasBrokenEscape {s : List Char} (h : hasBrokenEscape s = true) : '%' ∈ s := by
  induction s
  case nil => simp [hasBrokenEscape] at h
  case cons c s hi =>
    by_cases hc : c = '%'
    case pos => simp [hc]
    case neg => exact List.mem_cons_of_mem _ <| hi <| hasBrokenEscape_cons_of_ne hc s ▸ h

theorem unescapeUnreserved_cons_of_ne {spelled? : Char → Char → Option UInt8} {c : Char}
    (h : c ≠ '%') (rest : List Char) :
    unescapeUnreserved spelled? (c :: rest) = c :: unescapeUnreserved spelled? rest := by
  rw [unescapeUnreserved.eq_def]
  split <;> simp_all

theorem upperEscapes_cons_of_ne {c : Char} (h : c ≠ '%') (rest : List Char) :
    upperEscapes (c :: rest) = c :: upperEscapes rest := by
  rw [upperEscapes.eq_def]
  split <;> simp_all

theorem findEscape?_cons_of_ne {p : UInt8 → Bool} {c : Char} (h : c ≠ '%') (rest : List Char) :
    findEscape? p (c :: rest) = findEscape? p rest := by
  rw [findEscape?.eq_def]
  split <;> simp_all

-- What has no percent sign has no escapes to be looked at.
theorem escapes_of_not_mem {s : List Char} (h : '%' ∉ s) :
    wellEscaped s = true ∧ upperEscapes s = s ∧
      (∀ spelled?, unescapeUnreserved spelled? s = s) ∧ ∀ p, findEscape? p s = none := by
  induction s
  case nil => exact ⟨rfl, rfl, fun _ => rfl, fun _ => rfl⟩
  case cons c s hi =>
    simp only [List.mem_cons, not_or] at h
    obtain ⟨hc, h⟩ := h
    have hc : c ≠ '%' := Ne.symm hc
    obtain ⟨hw, hu, hr, hf⟩ := hi h
    refine ⟨?_, ?_, fun spelled? => ?_, fun p => ?_⟩
    · rw [wellEscaped_cons_of_ne hc, hw]
    · rw [upperEscapes_cons_of_ne hc, hu]
    · rw [unescapeUnreserved_cons_of_ne hc, hr]
    · rw [findEscape?_cons_of_ne hc, hf]

-- No escape goes across the character that separates parameters.
theorem hasBrokenEscape_append (s t : List Char) :
    hasBrokenEscape (s ++ '&' :: t) = (hasBrokenEscape s || hasBrokenEscape t) := by
  have ha : Text.isAlphanumeric '&' = false := by decide +kernel
  have hn : hasBrokenEscape ('&' :: t) = hasBrokenEscape t :=
    hasBrokenEscape_cons_of_ne (by decide) t
  induction s
  case nil => exact hn
  case cons c s hi =>
    by_cases hc : c = '%'
    case neg =>
      rw [List.cons_append, hasBrokenEscape_cons_of_ne hc, hasBrokenEscape_cons_of_ne hc, hi]
    case pos =>
      subst hc
      rcases s with _ | ⟨a, _ | ⟨b, s⟩⟩
      · cases t <;> simp_all [hasBrokenEscape]
      · simp_all [hasBrokenEscape]
      · simp only [List.cons_append, hasBrokenEscape] at hi ⊢
        rw [hi, Bool.or_assoc]

theorem unescapeUnreserved_append (s t : List Char) :
    unescapeUnreserved anyScriptByte? (s ++ '&' :: t) =
      unescapeUnreserved anyScriptByte? s ++ '&' :: unescapeUnreserved anyScriptByte? t := by
  have hv : value? '&' = none ∧ Text.digitValue? '&' = none := by decide
  have hn : unescapeUnreserved anyScriptByte? ('&' :: t) =
      '&' :: unescapeUnreserved anyScriptByte? t := unescapeUnreserved_cons_of_ne (by decide) t
  induction s using unescapeUnreserved.induct anyScriptByte?
  case case1 => exact hn
  case case2 a b rest byte hb c hc hi => simp [unescapeUnreserved, hb, c, hc, hi]
  case case3 a b rest byte hb c hc hi => simp [unescapeUnreserved, hb, c, hc, hi]
  case case4 a b rest hb hi => simpa [unescapeUnreserved, hb] using hi
  case case5 c rest hc hi =>
    by_cases hp : c = '%'
    case neg =>
      rw [List.cons_append, unescapeUnreserved_cons_of_ne hp, unescapeUnreserved_cons_of_ne hp, hi,
        List.cons_append]
    case pos =>
      subst hp
      rcases rest with _ | ⟨a, _ | ⟨b, rest⟩⟩
      · cases t <;> simp_all [unescapeUnreserved, anyScriptByte?]
      · simp_all [unescapeUnreserved, anyScriptByte?]
      · exact (hc a b rest rfl rfl).elim

-- A text whose percent signs all start escapes, none of them one of an unreserved character.
inductive EscapesReserved : List Char → Prop where
  | nil : EscapesReserved []
  | char {c : Char} {s : List Char} (hc : c ≠ '%') (hs : EscapesReserved s) :
    EscapesReserved (c :: s)
  | byte {b : UInt8} {s : List Char} (hb : isUnreserved (Char.ofNat b.toNat) = false)
    (hs : EscapesReserved s) : EscapesReserved (escapeByte b ++ s)

namespace EscapesReserved

variable {s t : List Char}

theorem append (hs : EscapesReserved s) (ht : EscapesReserved t) : EscapesReserved (s ++ t) := by
  induction hs
  case nil => exact ht
  case char hc _ hi => exact .char hc hi
  case byte hb _ hi => exact List.append_assoc .. ▸ .byte hb hi

theorem wellEscaped (h : EscapesReserved s) : wellEscaped s = true := by
  induction h
  case nil => rfl
  case char hc _ hi => rw [wellEscaped_cons_of_ne hc, hi]
  case byte hi => rw [wellEscaped_escapeByte, hi]

theorem flatMap_escapeByte {bs : List UInt8}
    (h : ∀ b ∈ bs, isUnreserved (Char.ofNat b.toNat) = false) :
    EscapesReserved (bs.flatMap escapeByte) := by
  induction bs
  case nil => exact .nil
  case cons b bs hi =>
    simp only [List.mem_cons, forall_eq_or_imp] at h
    exact .byte h.left (hi h.right)

theorem unescapeUnreserved (h : EscapesReserved s) :
    unescapeUnreserved anyScriptByte? s = s := by
  induction h
  case nil => rfl
  case char hc _ hi => rw [unescapeUnreserved_cons_of_ne hc, hi]
  case byte b _ hb _ hi =>
    simp [escapeByte, Percent.unescapeUnreserved, anyScriptByte?_upperDigit, hb, hi]

-- A byte of a character beyond ASCII is none of an unreserved one.
theorem escapeChar (c : Char) : EscapesReserved (escapeChar isUnreserved c) := by
  unfold Percent.escapeChar
  split
  case isTrue hc => exact .char (ne_percent_of_isUnreserved hc) .nil
  case isFalse hc =>
    apply flatMap_escapeByte
    intro b hb
    by_cases ha : c.toNat < 0x80
    case pos =>
      have hb : b = .ofNat c.toNat := by simpa [Utf8.encodeChar, ha] using hb
      rw [hb, Utf8.toNat_ofNat (by omega), Char.ofNat_toNat]
      simpa using hc
    case neg => exact isUnreserved_ofNat (Utf8.le_toNat_of_mem_encodeChar (by omega) hb) b.toNat_lt

end EscapesReserved

end DocStore.Percent
