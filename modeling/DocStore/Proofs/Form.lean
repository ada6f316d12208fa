import DocStore.Form
import DocStore.Proofs.Percent
import DocStore.Proofs.Utf8

namespace DocStore.Form

open Percent

theorem mem_escapeByte {b : UInt8} {d : Char} (h : d ∈ escapeByte b) :
    d = '%' ∨ isUnreserved d = true := by
  have hb : b.toNat < 256 := b.toNat_lt
  simp only [escapeByte, List.mem_cons, List.not_mem_nil, or_false] at h
  rcases h with rfl | rfl | rfl
  case inl => exact .inl rfl
  case inr.inl => exact .inr <| isUnreserved_upperDigit (by omega)
  case inr.inr => exact .inr <| isUnreserved_upperDigit (by omega)

theorem mem_escapeChar {c d : Char} (h : d ∈ escapeChar isUnreserved c) :
    d = '%' ∨ isUnreserved d = true := by
  unfold escapeChar at h
  split at h
  case isTrue hc => exact .inr <| List.mem_singleton.mp h ▸ hc
  case isFalse =>
    have ⟨_, _, h⟩ := List.mem_flatMap.mp h
    exact mem_escapeByte h

theorem mem_encodeText {s : String} {d : Char} (h : d ∈ encodeText s) :
    d = '+' ∨ d = '%' ∨ isUnreserved d = true := by
  have ⟨c, _, h⟩ := List.mem_flatMap.mp h
  unfold encodeChar at h
  split at h
  case isTrue => exact .inl <| List.mem_singleton.mp h
  case isFalse => exact .inr <| mem_escapeChar h

theorem not_mem_encodeText {d : Char} (s : String) (h₁ : d ≠ '+') (h₂ : d ≠ '%')
    (h₃ : isUnreserved d = false) : d ∉ encodeText s := by
  intro h
  rcases mem_encodeText h with h | h | h
  all_goals simp_all

-- How a query writes a space, undone.
def plusToSpace (c : Char) : Char :=
  if c = '+' then ' ' else c

theorem map_plusToSpace {s : List Char} (h : '+' ∉ s) : s.map plusToSpace = s := by
  induction s
  case nil => rfl
  case cons c s hi =>
    simp only [List.mem_cons, not_or] at h
    simp [plusToSpace, Ne.symm h.left, hi h.right]

theorem bytes_map_encodeChar (c : Char) (rest : List Char) :
    bytes ((encodeChar c).map plusToSpace ++ rest) = Utf8.encodeChar c ++ bytes rest := by
  unfold encodeChar
  split
  case isTrue h =>
    simp [h, plusToSpace, bytes_cons_of_ne]
  case isFalse =>
    have hp : '+' ∉ escapeChar isUnreserved c := by
      intro h
      have := mem_escapeChar h
      revert this
      decide
    rw [map_plusToSpace hp, bytes_escapeChar (by decide)]

theorem bytes_map_encodeText (s : String) :
    bytes ((encodeText s).map plusToSpace) = Utf8.encode s.toList := by
  unfold encodeText
  induction s.toList
  case nil => rfl
  case cons c cs hi => simp [bytes_map_encodeChar, hi]

@[simp] theorem decodeText_encodeText (s : String) : decodeText (encodeText s) = s := by
  change String.ofList (Utf8.decodeLossy (bytes ((encodeText s).map plusToSpace))) = s
  simp [bytes_map_encodeText]

theorem encodeChar_ne_nil (c : Char) : encodeChar c ≠ [] := by
  unfold encodeChar
  split
  case isTrue => simp
  case isFalse => exact escapeChar_ne_nil _ c

theorem encodeText_ne_nil {s : String} (h : s ≠ "") : encodeText s ≠ [] := by
  have hs : s.toList ≠ [] := by simpa using h
  unfold encodeText
  cases hc : s.toList
  case nil => exact absurd hc hs
  case cons c cs => simp [encodeChar_ne_nil]

theorem decodePair?_encodePair {parameter : String × String} (h : parameter.2 ≠ "") :
    decodePair? (encodePair parameter) = some parameter := by
  have hp : ∀ c ∈ encodeText parameter.1, (c != '=') = true := by
    intro c hc
    simpa using ne_of_mem_of_not_mem hc <|
      not_mem_encodeText parameter.1 (by decide) (by decide) (by decide)
  rw [decodePair?, encodePair, List.dropWhile_append_of_pos hp, List.takeWhile_append_of_pos hp]
  have hd := decodeText_encodeText parameter.2
  cases hv : encodeText parameter.2
  case nil => exact absurd hv (encodeText_ne_nil h)
  case cons =>
    rw [hv] at hd
    simp [hd]

theorem not_mem_encodePair (parameter : String × String) : '&' ∉ encodePair parameter := by
  have h (s : String) := @not_mem_encodeText '&' s (by decide) (by decide) (by decide)
  simp [encodePair, h]

theorem decode_encode {parameters : List (String × String)}
    (h : ∀ parameter ∈ parameters, parameter.2 ≠ "") : decode (encode parameters) = parameters := by
  by_cases hn : parameters = []
  case pos => simp [hn, decode, encode, decodePair?]
  case neg =>
    have hs : ∀ part ∈ parameters.map encodePair, '&' ∉ part := by
      intro part hp
      have ⟨parameter, _, he⟩ := List.mem_map.mp hp
      exact he ▸ not_mem_encodePair parameter
    rw [decode, encode, List.splitOn_intercalate _ hs (by simpa using hn), List.filterMap_map]
    clear hn hs
    induction parameters
    case nil => rfl
    case cons parameter parameters hi =>
      simp only [List.mem_cons, forall_eq_or_imp] at h
      rw [List.filterMap_cons, Function.comp_apply, decodePair?_encodePair h.left, hi h.right]

theorem decode_append (s t : List Char) : decode (s ++ '&' :: t) = decode s ++ decode t := by
  rw [decode, List.splitOn_append_cons_self, List.filterMap_append]
  rfl

theorem mem_encode {parameters : List (String × String)} {c : Char}
    (h : c ∈ encode parameters) :
    c = '&' ∨ c = '=' ∨ c = '+' ∨ c = '%' ∨ isUnreserved c = true := by
  unfold encode at h
  induction parameters
  case nil => simp at h
  case cons parameter parameters hi =>
    have hp : c ∈ encodePair parameter →
        c = '&' ∨ c = '=' ∨ c = '+' ∨ c = '%' ∨ isUnreserved c = true := by
      intro h
      simp only [encodePair, List.mem_append, List.mem_cons] at h
      rcases h with h | h | h
      case inl => exact .inr <| .inr <| mem_encodeText h
      case inr.inl => exact .inr <| .inl h
      case inr.inr => exact .inr <| .inr <| mem_encodeText h
    cases parameters
    case nil => exact hp (by simpa using h)
    case cons =>
      simp only [List.map_cons, List.intercalate_cons_cons, List.mem_append,
        List.mem_singleton] at h hi
      rcases h with (h | h) | h
      case inl.inl => exact hp h
      case inl.inr => exact .inl h
      case inr => exact hi h

theorem escapesReserved_encodeText (s : String) : EscapesReserved (encodeText s) := by
  unfold encodeText
  induction s.toList
  case nil => exact .nil
  case cons c cs hi =>
    rw [List.flatMap_cons]
    apply EscapesReserved.append _ hi
    unfold encodeChar
    split
    case isTrue => exact .char (by decide) .nil
    case isFalse => exact .escapeChar c

theorem escapesReserved_encode (parameters : List (String × String)) :
    EscapesReserved (encode parameters) := by
  have hp (parameter) : EscapesReserved (encodePair parameter) :=
    (escapesReserved_encodeText parameter.1).append <|
      .char (by decide) (escapesReserved_encodeText parameter.2)
  unfold encode
  induction parameters
  case nil => exact .nil
  case cons parameter parameters hi =>
    cases parameters
    case nil => simpa using hp parameter
    case cons =>
      simp only [List.map_cons, List.intercalate_cons_cons] at hi ⊢
      exact ((hp parameter).append <| .char (by decide) .nil).append hi

-- A query that is escaped once more decodes to what it was, but for its spaces.
theorem decodeText_escape {keep : Char → Bool} (hp : keep '%' = false) (ha : keep '+' = true)
    (s : List Char) : decodeText (escape keep s) = String.ofList (s.map plusToSpace) := by
  suffices bytes ((escape keep s).map plusToSpace) = Utf8.encode (s.map plusToSpace) by
    change String.ofList (Utf8.decodeLossy (bytes ((escape keep s).map plusToSpace))) = _
    rw [this, Utf8.decodeLossy_encode]
  unfold escape
  induction s
  case nil => rfl
  case cons c s hi =>
    rw [List.flatMap_cons, List.map_append, List.map_cons, Utf8.encode_cons, ← hi]
    by_cases hk : keep c = true
    case pos =>
      have hc : plusToSpace c ≠ '%' := by
        unfold plusToSpace
        split
        case isTrue => decide
        case isFalse =>
          rintro rfl
          simp [hp] at hk
      simp [escapeChar, hk, bytes_cons_of_ne hc]
    case neg =>
      have hc : c ≠ '+' := by
        rintro rfl
        exact hk ha
      have he : '+' ∉ escapeChar keep c := by
        intro h
        simp only [escapeChar, hk, Bool.false_eq_true, if_false] at h
        obtain ⟨_, _, h⟩ := List.mem_flatMap.mp h
        have h := mem_escapeByte h
        revert h
        decide
      rw [map_plusToSpace he, bytes_escapeChar hp]
      simp [plusToSpace, hc]

theorem mem_escape {keep : Char → Bool} {s : List Char} {c : Char} (h : c ∈ escape keep s) :
    c ∈ s ∨ c = '%' ∨ isUnreserved c = true := by
  have ⟨d, hd, h⟩ := List.mem_flatMap.mp h
  unfold escapeChar at h
  split at h
  case isTrue => exact .inl <| List.mem_singleton.mp h ▸ hd
  case isFalse =>
    have ⟨_, _, h⟩ := List.mem_flatMap.mp h
    exact .inr <| mem_escapeByte h

theorem not_mem_escape_encodeText {keep : Char → Bool} {c : Char} (s : String) (h₁ : c ≠ '+')
    (h₂ : c ≠ '%') (h₃ : isUnreserved c = false) : c ∉ escape keep (encodeText s) := by
  intro hc
  rcases mem_escape hc with hc | hc | hc
  case inl => exact not_mem_encodeText s h₁ h₂ h₃ hc
  case inr.inl => exact h₂ hc
  case inr.inr => simp [h₃] at hc

theorem not_mem_escape_encodePair {keep : Char → Bool} (parameter : String × String) :
    '&' ∉ escape keep (encodePair parameter) := by
  intro hc
  rcases mem_escape hc with hc | hc | hc
  case inl => exact not_mem_encodePair parameter hc
  case inr.inl => exact absurd hc (by decide)
  case inr.inr => exact absurd hc (by decide)

theorem escape_intercalate {keep : Char → Bool} {c : Char} (h : keep c = true)
    (parts : List (List Char)) :
    escape keep ([c].intercalate parts) = [c].intercalate (parts.map (escape keep)) := by
  induction parts
  case nil => rfl
  case cons part parts hi =>
    cases parts
    case nil => simp
    case cons =>
      simp only [List.map_cons, List.intercalate_cons_cons] at hi ⊢
      rw [← hi]
      simp [escape, escapeChar, h]

-- A text in its escaped form, to a reader who undoes the escapes of something else.
def spelled (s : String) : String :=
  String.ofList ((encodeText s).map plusToSpace)

theorem decodeText_spelled (s : String) : decodeText (spelled s).toList = s := by
  have hp : plusToSpace ∘ plusToSpace = plusToSpace := by
    funext c
    by_cases h : c = '+' <;> simp [plusToSpace, h]
  change String.ofList (Utf8.decodeLossy (bytes ((spelled s).toList.map plusToSpace))) = s
  rw [spelled, String.toList_ofList, List.map_map, hp, bytes_map_encodeText]
  simp

theorem spelled_injective : Function.Injective spelled := by
  intro s t h
  rw [← decodeText_spelled s, h, decodeText_spelled]

section

variable {keep : Char → Bool} (hp : keep '%' = false) (ha : keep '+' = true)
include hp ha

theorem decodePair?_escape_encodePair (he : keep '=' = true) {parameter : String × String}
    (h : parameter.2 ≠ "") :
    decodePair? (escape keep (encodePair parameter)) =
      some (spelled parameter.1, spelled parameter.2) := by
  have hs : escape keep (encodePair parameter) =
      escape keep (encodeText parameter.1) ++ '=' :: escape keep (encodeText parameter.2) := by
    simp [encodePair, escape, escapeChar, he]
  have hd : ∀ c ∈ escape keep (encodeText parameter.1), (c != '=') = true := by
    intro c hc
    simpa using ne_of_mem_of_not_mem hc <|
      not_mem_escape_encodeText parameter.1 (by decide) (by decide) (by decide)
  have hv := escape_ne_nil keep (encodeText_ne_nil h)
  have ht := decodeText_escape hp ha (encodeText parameter.2)
  rw [hs, decodePair?, List.dropWhile_append_of_pos hd, List.takeWhile_append_of_pos hd]
  cases hc : escape keep (encodeText parameter.2)
  case nil => exact absurd hc hv
  case cons =>
    rw [hc] at ht
    simp [decodeText_escape hp ha, ht, spelled]

-- Parameters that were escaped once more are still the same number of parameters.
theorem decode_escape_encode (he : keep '=' = true) (hs : keep '&' = true)
    {parameters : List (String × String)} (h : ∀ parameter ∈ parameters, parameter.2 ≠ "") :
    decode (escape keep (encode parameters)) = parameters.map (Prod.map spelled spelled) := by
  by_cases hn : parameters = []
  case pos => simp [hn, decode, encode, escape, decodePair?]
  case neg =>
    have hm : ∀ part ∈ (parameters.map encodePair).map (escape keep), '&' ∉ part := by
      intro part hm
      simp only [List.map_map, List.mem_map, Function.comp_apply] at hm
      obtain ⟨parameter, _, rfl⟩ := hm
      exact not_mem_escape_encodePair parameter
    rw [decode, encode, escape_intercalate hs, List.splitOn_intercalate _ hm (by simpa using hn),
      List.map_map, List.filterMap_map]
    clear hn hm
    induction parameters
    case nil => rfl
    case cons parameter parameters hi =>
      rw [List.forall_mem_cons] at h
      rw [List.filterMap_cons, Function.comp_apply, Function.comp_apply,
        decodePair?_escape_encodePair hp ha he h.left, hi h.right]
      rfl

end

end DocStore.Form
