import DocStore.Utf8

namespace DocStore.Utf8

theorem toNat_ofNat {n : Nat} (h : n < 256) : (UInt8.ofNat n).toNat = n := by
  simp [Nat.mod_eq_of_lt h]

theorem le_toNat_of_mem_encodeChar {c : Char} {b : UInt8} (h : 0x80 ≤ c.toNat)
    (hb : b ∈ encodeChar c) : 0x80 ≤ b.toNat := by
  have hv : c.toNat < 0x110000 := by
    have hv : c.toNat < 0xD800 ∨ 0xDFFF < c.toNat ∧ c.toNat < 0x110000 := c.valid
    omega
  simp only [encodeChar] at hb
  repeat' split at hb
  all_goals
    simp only [List.mem_cons, List.not_mem_nil, or_false] at hb
    rcases hb with rfl | rfl | rfl | rfl <;> rw [toNat_ofNat (by omega)] <;> omega

section

variable {seen : List UInt8} {code due low high v : Nat} {bs : List UInt8}

-- A byte that adds six bits to the code point and completes it.
theorem piecesAfter_last (hv : v < 0x40) (hl : low ≤ 0x80 + v) (hh : 0x80 + v ≤ high) :
    piecesAfter (.ofNat (0x80 + v) :: bs) (some ⟨seen, code, 1, low, high⟩) =
      .char (Char.ofNat (0x40 * code + v)) :: piecesAfter bs none := by
  have hn := toNat_ofNat (show 0x80 + v < 256 by omega)
  rw [piecesAfter]
  simp only [Pending.admits, Pending.push, hn]
  simp [hl, hh]

-- A byte that adds six bits to the code point, with others due after it.
theorem piecesAfter_next (due : Nat) (hv : v < 0x40) (hl : low ≤ 0x80 + v) (hh : 0x80 + v ≤ high) :
    piecesAfter (.ofNat (0x80 + v) :: bs) (some ⟨seen, code, due + 2, low, high⟩) =
      piecesAfter bs
        (some ⟨seen ++ [.ofNat (0x80 + v)], 0x40 * code + v, due + 1, 0x80, 0xBF⟩) := by
  have hn := toNat_ofNat (show 0x80 + v < 256 by omega)
  rw [piecesAfter]
  simp only [Pending.admits, Pending.push, hn]
  simp [hl, hh]

theorem piecesAfter_start {b : UInt8} {p : Pending} (h : 0x80 ≤ b.toNat)
    (hp : Pending.start? b = some p) : piecesAfter (b :: bs) none = piecesAfter bs (some p) := by
  simp [piecesAfter, startPiece, Nat.not_lt.mpr h, hp]

theorem piecesAfter_two (h : 2 ≤ v) (hv : v < 0x20) :
    piecesAfter (.ofNat (0xC0 + v) :: bs) none =
      piecesAfter bs (some ⟨[.ofNat (0xC0 + v)], v, 1, 0x80, 0xBF⟩) := by
  have hn := toNat_ofNat (show 0xC0 + v < 256 by omega)
  apply piecesAfter_start (by omega)
  simp only [Pending.start?, hn]
  rw [if_pos (by omega), Nat.add_sub_cancel_left]

theorem piecesAfter_three (hv : v < 0x10) :
    piecesAfter (.ofNat (0xE0 + v) :: bs) none =
      piecesAfter bs (some ⟨[.ofNat (0xE0 + v)], v, 2, if v = 0 then 0xA0 else 0x80,
        if v = 0xD then 0x9F else 0xBF⟩) := by
  have hn := toNat_ofNat (show 0xE0 + v < 256 by omega)
  apply piecesAfter_start (by omega)
  simp only [Pending.start?, hn]
  rw [if_neg (by omega), if_pos (by omega), Nat.add_sub_cancel_left]
  simp [show 0xE0 + v = 0xED ↔ v = 0xD by omega]

theorem piecesAfter_four (hv : v < 5) :
    piecesAfter (.ofNat (0xF0 + v) :: bs) none =
      piecesAfter bs (some ⟨[.ofNat (0xF0 + v)], v, 3, if v = 0 then 0x90 else 0x80,
        if v = 4 then 0x8F else 0xBF⟩) := by
  have hn := toNat_ofNat (show 0xF0 + v < 256 by omega)
  apply piecesAfter_start (by omega)
  simp only [Pending.start?, hn]
  rw [if_neg (by omega), if_neg (by omega), if_pos (by omega), Nat.add_sub_cancel_left]
  simp [show 0xF0 + v = 0xF4 ↔ v = 4 by omega]

end

-- The bytes of a character are one piece, whatever follows them. That the code point is no
-- surrogate and not past the last is what the narrower bounds of a second byte ask for.
theorem piecesAfter_encodeChar (c : Char) (rest : List UInt8) :
    piecesAfter (encodeChar c ++ rest) none = .char c :: piecesAfter rest none := by
  have hv : c.toNat < 0xD800 ∨ 0xDFFF < c.toNat ∧ c.toNat < 0x110000 := c.valid
  have hc {n : Nat} (h : n = c.toNat) : Char.ofNat n = c := h ▸ Char.ofNat_toNat c
  simp only [encodeChar]
  split
  case isTrue h =>
    simp [piecesAfter, startPiece, Nat.mod_eq_of_lt (show c.toNat < 256 by omega), h]
  case isFalse h₁ =>
    split
    case isTrue h₂ =>
      simp only [List.cons_append, List.nil_append]
      rw [piecesAfter_two (by omega) (by omega), piecesAfter_last (by omega) (by omega) (by omega),
        hc (by omega)]
    case isFalse h₂ =>
      split
      case isTrue h₃ =>
        simp only [List.cons_append, List.nil_append]
        rw [piecesAfter_three (by omega), piecesAfter_next 0 (by omega) (by split <;> omega)
          (by split <;> omega), piecesAfter_last (by omega) (by omega) (by omega), hc (by omega)]
      case isFalse h₃ =>
        simp only [List.cons_append, List.nil_append]
        rw [piecesAfter_four (by omega), piecesAfter_next 1 (by omega) (by split <;> omega)
          (by split <;> omega), piecesAfter_next 0 (by omega) (by omega) (by omega),
          piecesAfter_last (by omega) (by omega) (by omega), hc (by omega)]

theorem pieces_encode (s : List Char) : pieces (encode s) = s.map .char := by
  suffices piecesAfter (encode s) none = s.map .char from this
  induction s
  case nil => rfl
  case cons c s hi => simp [piecesAfter_encodeChar, hi]

@[simp] theorem decodeLossy_encode (s : List Char) : decodeLossy (encode s) = s := by
  simp [decodeLossy, pieces_encode, Function.comp_def]

theorem joinStrict_map_char (s : List Char) (position : Nat) :
    joinStrict position (s.map .char) = .ok s := by
  induction s generalizing position
  case nil => rfl
  case cons c s hi => simp [joinStrict, hi, Except.map]

theorem decode_encode (s : List Char) : decode (encode s) = .ok s := by
  rw [decode, pieces_encode, joinStrict_map_char]

theorem length_encode_of_ascii {s : List Char} (h : ∀ c ∈ s, c.toNat < 0x80) :
    (encode s).length = s.length := by
  induction s
  case nil => rfl
  case cons c s hi =>
    rw [List.forall_mem_cons] at h
    have hc : (encodeChar c).length = 1 := by simp [encodeChar, h.left]
    rw [encode_cons, List.length_append, hc, hi h.right, List.length_cons, Nat.add_comm]

theorem toNat_ofNat_of_isValidChar {n : Nat} (h : n.isValidChar) : (Char.ofNat n).toNat = n := by
  rw [Char.ofNat, dif_pos h]
  rfl

section

variable {u v w x : Nat}

theorem encodeChar_one (h : v < 0x80) : encodeChar (Char.ofNat v) = [.ofNat v] := by
  have hn := toNat_ofNat_of_isValidChar (n := v) (.inl (by omega))
  simp only [encodeChar, hn]
  rw [if_pos h]

theorem encodeChar_two (hl : 2 ≤ v) (hv : v < 0x20) (hw : w < 0x40) :
    encodeChar (Char.ofNat (0x40 * v + w)) = [.ofNat (0xC0 + v), .ofNat (0x80 + w)] := by
  have hn := toNat_ofNat_of_isValidChar (n := 0x40 * v + w) (.inl (by omega))
  have hd : (0x40 * v + w) / 0x40 = v := by omega
  have hm : (0x40 * v + w) % 0x40 = w := by omega
  simp only [encodeChar, hn, hd, hm]
  rw [if_neg (by omega), if_pos (by omega)]

-- The second byte shuts out what has a shorter form, and the surrogates.
theorem encodeChar_three (hu : u < 0x10) (hv : v < 0x40) (hw : w < 0x40) (hl : u = 0 → 0x20 ≤ v)
    (hh : u = 0xD → v < 0x20) :
    encodeChar (Char.ofNat (0x40 * (0x40 * u + v) + w)) =
      [.ofNat (0xE0 + u), .ofNat (0x80 + v), .ofNat (0x80 + w)] := by
  have hn := toNat_ofNat_of_isValidChar (n := 0x40 * (0x40 * u + v) + w) (by
    simp only [Nat.isValidChar]
    omega)
  have hd : (0x40 * (0x40 * u + v) + w) / 0x1000 = u := by omega
  have hd' : (0x40 * (0x40 * u + v) + w) / 0x40 % 0x40 = v := by omega
  have hm : (0x40 * (0x40 * u + v) + w) % 0x40 = w := by omega
  simp only [encodeChar, hn, hd, hd', hm]
  rw [if_neg (by omega), if_neg (by omega), if_pos (by omega)]

-- The second byte shuts out what has a shorter form, and what is past the last code point.
theorem encodeChar_four (hu : u < 5) (hv : v < 0x40) (hw : w < 0x40) (hx : x < 0x40)
    (hl : u = 0 → 0x10 ≤ v) (hh : u = 4 → v < 0x10) :
    encodeChar (Char.ofNat (0x40 * (0x40 * (0x40 * u + v) + w) + x)) =
      [.ofNat (0xF0 + u), .ofNat (0x80 + v), .ofNat (0x80 + w), .ofNat (0x80 + x)] := by
  have hn := toNat_ofNat_of_isValidChar (n := 0x40 * (0x40 * (0x40 * u + v) + w) + x) (by
    simp only [Nat.isValidChar]
    omega)
  have hd : (0x40 * (0x40 * (0x40 * u + v) + w) + x) / 0x40000 = u := by omega
  have hd' : (0x40 * (0x40 * (0x40 * u + v) + w) + x) / 0x1000 % 0x40 = v := by omega
  have hd'' : (0x40 * (0x40 * (0x40 * u + v) + w) + x) / 0x40 % 0x40 = w := by omega
  have hm : (0x40 * (0x40 * (0x40 * u + v) + w) + x) % 0x40 = x := by omega
  simp only [encodeChar, hn, hd, hd', hd'', hm]
  rw [if_neg (by omega), if_neg (by omega), if_neg (by omega)]

end

def AreChars (pieces : List Piece) : Prop :=
  ∀ bytes reason, .bad bytes reason ∉ pieces

theorem AreChars.of_cons {piece : Piece} {pieces : List Piece} (h : AreChars (piece :: pieces)) :
    AreChars pieces :=
  fun bytes reason hm => h bytes reason (.tail _ hm)

section

variable {seen bs : List UInt8} {code low high : Nat}

-- An unfinished sequence goes on with a byte that adds six bits, if what comes of it is to be a
-- character.
theorem exists_of_pending {due : Nat} (hl : 0x80 ≤ low) (hh : high ≤ 0xBF)
    (h : AreChars (piecesAfter bs (some ⟨seen, code, due, low, high⟩))) :
    ∃ v rest, v < 0x40 ∧ low ≤ 0x80 + v ∧ 0x80 + v ≤ high ∧ bs = .ofNat (0x80 + v) :: rest := by
  cases bs
  case nil => exact absurd (.head _) (h seen .endOfData)
  case cons b rest =>
    rw [piecesAfter] at h
    split at h
    case isFalse => exact absurd (.head _) (h seen .continuationByte)
    case isTrue ha =>
      simp only [Pending.admits, Bool.and_eq_true, decide_eq_true_eq] at ha
      refine ⟨b.toNat - 0x80, rest, by omega, by omega, by omega, ?_⟩
      rw [show 0x80 + (b.toNat - 0x80) = b.toNat by omega, UInt8.ofNat_toNat]

theorem exists_of_pending_one (hl : 0x80 ≤ low) (hh : high ≤ 0xBF)
    (h : AreChars (piecesAfter bs (some ⟨seen, code, 1, low, high⟩))) :
    ∃ v rest, v < 0x40 ∧ low ≤ 0x80 + v ∧ 0x80 + v ≤ high ∧ bs = .ofNat (0x80 + v) :: rest ∧
      AreChars (piecesAfter rest none) := by
  obtain ⟨v, rest, hv, hl, hh, rfl⟩ := exists_of_pending hl hh h
  rw [piecesAfter_last hv hl hh] at h
  exact ⟨v, rest, hv, hl, hh, rfl, h.of_cons⟩

theorem exists_of_pending_more (due : Nat) (hl : 0x80 ≤ low) (hh : high ≤ 0xBF)
    (h : AreChars (piecesAfter bs (some ⟨seen, code, due + 2, low, high⟩))) :
    ∃ v rest, v < 0x40 ∧ low ≤ 0x80 + v ∧ 0x80 + v ≤ high ∧ bs = .ofNat (0x80 + v) :: rest ∧
      AreChars (piecesAfter rest
        (some ⟨seen ++ [.ofNat (0x80 + v)], 0x40 * code + v, due + 1, 0x80, 0xBF⟩)) := by
  obtain ⟨v, rest, hv, hl, hh, rfl⟩ := exists_of_pending hl hh h
  rw [piecesAfter_next due hv hl hh] at h
  exact ⟨v, rest, hv, hl, hh, rfl, h⟩

end

theorem encodeChar_ne_nil (c : Char) : encodeChar c ≠ [] := by
  simp only [encodeChar]
  repeat' split
  all_goals simp

-- Whether bytes begin with those of a character, and the pieces after it are characters again.
def StartsWithChar (bytes : List UInt8) : Prop :=
  ∃ c rest, bytes = encodeChar c ++ rest ∧ AreChars (piecesAfter rest none)

section

variable {b : UInt8} {bs : List UInt8}

theorem ofNat_add_sub {n : Nat} (h : n ≤ b.toNat) : UInt8.ofNat (n + (b.toNat - n)) = b := by
  rw [Nat.add_sub_cancel' h, UInt8.ofNat_toNat]

theorem startsWithChar_two (hb : 0xC2 ≤ b.toNat ∧ b.toNat ≤ 0xDF)
    (h : AreChars (piecesAfter bs (some ⟨[b], b.toNat - 0xC0, 1, 0x80, 0xBF⟩))) :
    StartsWithChar (b :: bs) := by
  obtain ⟨w, rest, hw, _, _, rfl, hr⟩ := exists_of_pending_one (Nat.le_refl _) (Nat.le_refl _) h
  have he := ofNat_add_sub (b := b) (n := 0xC0) (by omega)
  refine ⟨.ofNat (0x40 * (b.toNat - 0xC0) + w), rest, ?_, hr⟩
  rw [encodeChar_two (by omega) (by omega) hw, he]
  rfl

theorem startsWithChar_three (hb : 0xE0 ≤ b.toNat ∧ b.toNat ≤ 0xEF)
    (h : AreChars (piecesAfter bs (some ⟨[b], b.toNat - 0xE0, 2,
      if b.toNat = 0xE0 then 0xA0 else 0x80, if b.toNat = 0xED then 0x9F else 0xBF⟩))) :
    StartsWithChar (b :: bs) := by
  obtain ⟨v, _, hv, hl, hh, rfl, ha⟩ :=
    exists_of_pending_more 0 (by split <;> omega) (by split <;> omega) h
  obtain ⟨w, rest, hw, _, _, rfl, hr⟩ := exists_of_pending_one (Nat.le_refl _) (Nat.le_refl _) ha
  have he := ofNat_add_sub (b := b) (n := 0xE0) (by omega)
  have hl : b.toNat - 0xE0 = 0 → 0x20 ≤ v := by split at hl <;> omega
  have hh : b.toNat - 0xE0 = 0xD → v < 0x20 := by split at hh <;> omega
  refine ⟨.ofNat (0x40 * (0x40 * (b.toNat - 0xE0) + v) + w), rest, ?_, hr⟩
  rw [encodeChar_three (by omega) hv hw hl hh, he]
  rfl

theorem startsWithChar_four (hb : 0xF0 ≤ b.toNat ∧ b.toNat ≤ 0xF4)
    (h : AreChars (piecesAfter bs (some ⟨[b], b.toNat - 0xF0, 3,
      if b.toNat = 0xF0 then 0x90 else 0x80, if b.toNat = 0xF4 then 0x8F else 0xBF⟩))) :
    StartsWithChar (b :: bs) := by
  obtain ⟨v, _, hv, hl, hh, rfl, ha⟩ :=
    exists_of_pending_more 1 (by split <;> omega) (by split <;> omega) h
  obtain ⟨w, _, hw, _, _, rfl, ha'⟩ :=
    exists_of_pending_more 0 (Nat.le_refl _) (Nat.le_refl _) ha
  obtain ⟨x, rest, hx, _, _, rfl, hr⟩ := exists_of_pending_one (Nat.le_refl _) (Nat.le_refl _) ha'
  have he := ofNat_add_sub (b := b) (n := 0xF0) (by omega)
  have hl : b.toNat - 0xF0 = 0 → 0x10 ≤ v := by split at hl <;> omega
  have hh : b.toNat - 0xF0 = 4 → v < 0x10 := by split at hh <;> omega
  refine ⟨.ofNat (0x40 * (0x40 * (0x40 * (b.toNat - 0xF0) + v) + w) + x), rest, ?_, hr⟩
  rw [encodeChar_four (by omega) hv hw hx hl hh, he]
  rfl

-- The first byte tells how many are due after it.
theorem startsWithChar (h : AreChars (piecesAfter (b :: bs) none)) : StartsWithChar (b :: bs) := by
  rw [piecesAfter, startPiece] at h
  split at h
  case isTrue hb =>
    have he : encodeChar (.ofNat b.toNat) = [b] := by rw [encodeChar_one hb, UInt8.ofNat_toNat]
    exact ⟨.ofNat b.toNat, bs, by rw [he]; rfl, h.of_cons⟩
  case isFalse =>
    split at h
    case h_2 => exact absurd (.head _) (h [b] .startByte)
    case h_1 hp =>
      unfold Pending.start? at hp
      dsimp only at hp
      split at hp
      case isTrue hb =>
        cases hp
        exact startsWithChar_two hb h
      case isFalse =>
        split at hp
        case isTrue hb =>
          cases hp
          exact startsWithChar_three hb h
        case isFalse =>
          split at hp
          case isTrue hb =>
            cases hp
            exact startsWithChar_four hb h
          case isFalse => cases hp

end

theorem exists_encode (bytes : List UInt8) (h : AreChars (pieces bytes)) :
    ∃ s, bytes = encode s := by
  match bytes with
  | [] => exact ⟨[], rfl⟩
  | b :: bs =>
    obtain ⟨c, rest, he, hr⟩ := startsWithChar h
    have hl : rest.length < (b :: bs).length := by
      have hp := List.length_pos_iff.mpr (encodeChar_ne_nil c)
      rw [he, List.length_append]
      omega
    obtain ⟨s, rfl⟩ := exists_encode rest hr
    exact ⟨c :: s, he⟩
termination_by bytes.length
decreasing_by exact hl

theorem areChars_of_joinStrict {pieces : List Piece} {position : Nat} {s : List Char}
    (h : joinStrict position pieces = .ok s) : AreChars pieces := by
  induction pieces generalizing position s
  case nil => exact fun _ _ => List.not_mem_nil
  case cons piece pieces hi =>
    cases piece
    case bad => cases h
    case char c =>
      rw [joinStrict] at h
      cases hr : joinStrict (position + (encodeChar c).length) pieces
      case error => simp [hr, Except.map] at h
      case ok =>
        intro bytes reason hm
        rcases List.mem_cons.mp hm with hm | hm
        case inl => cases hm
        case inr => exact hi hr bytes reason hm

-- Bytes are read strictly exactly if they are those of some text, which is what they are read as.
theorem decode_eq_ok_iff {bytes : List UInt8} {s : List Char} :
    decode bytes = .ok s ↔ bytes = encode s := by
  constructor
  case mp =>
    intro h
    obtain ⟨t, rfl⟩ := exists_encode bytes (areChars_of_joinStrict h)
    rw [decode_encode] at h
    rw [Except.ok.inj h]
  case mpr =>
    rintro rfl
    exact decode_encode s

end DocStore.Utf8
