import DocStore.Proofs.Headers
import DocStore.Proofs.Request
import DocStore.Proofs.Text.Joined

namespace DocStore

open Percent

namespace Percent

def isWordChar (c : Char) : Bool :=
  isAsciiAlphanumeric c || c = '-' || c = '_'

variable {c d : Char} {s : List Char}

theorem isUnreserved_of_isWordChar (h : isWordChar c = true) : isUnreserved c = true := by
  simp only [isWordChar, Bool.or_eq_true] at h
  rcases h with (h | h) | h <;> simp [isUnreserved, h]

theorem toNat_of_isUnreserved (h : isUnreserved c = true) : 0x20 < c.toNat ∧ c.toNat < 0x7F := by
  simp only [isUnreserved, isAsciiAlphanumeric, isAsciiLetter, isAsciiDigit, Bool.or_eq_true,
    Bool.and_eq_true, decide_eq_true_eq, Char.le_def, UInt32.le_iff_toNat_le] at h
  change (((((97 ≤ c.toNat ∧ c.toNat ≤ 122 ∨ 65 ≤ c.toNat ∧ c.toNat ≤ 90) ∨
    48 ≤ c.toNat ∧ c.toNat ≤ 57) ∨ c = '-') ∨ c = '.') ∨ c = '_') ∨ c = '~' at h
  rcases h with ((((h | h) | rfl) | rfl) | rfl) | rfl
  all_goals first | omega | decide

theorem ne_of_isUnreserved (hc : isUnreserved c = true) (hd : isUnreserved d = false) : c ≠ d := by
  rintro rfl
  simp [hc] at hd

theorem not_mem_of_isUnreserved (h : ∀ c ∈ s, isUnreserved c = true)
    (hd : isUnreserved d = false) : d ∉ s :=
  fun hm => ne_of_isUnreserved (h d hm) hd rfl

theorem isWordChar_toLower (h : isWordChar c = true) : isWordChar c.toLower = true := by
  suffices ∀ n : Fin 0x7F, isWordChar (.ofNat n) = true →
      isWordChar (Char.ofNat n).toLower = true by
    have hn := this ⟨c.toNat, (toNat_of_isUnreserved (isUnreserved_of_isWordChar h)).right⟩
    rw [Char.ofNat_toNat] at hn
    exact hn h
  decide +kernel

end Percent

structure Host.IsPlain (host : List Char) : Prop where
  ne_nil : host ≠ []
  head   : host.head? ≠ some '.'
  chars  : ∀ c ∈ host, isWordChar c = true ∨ c = '.'

namespace Host

instance (host : List Char) : Decidable (IsPlain host) :=
  decidable_of_iff (host ≠ [] ∧ host.head? ≠ some '.' ∧
    host.all fun c => isWordChar c = true ∨ c = '.') <| by
  simp only [List.all_eq_true, decide_eq_true_eq]
  exact ⟨fun ⟨hn, hh, hc⟩ => ⟨hn, hh, hc⟩, fun ⟨hn, hh, hc⟩ => ⟨hn, hh, hc⟩⟩

variable {host : List Char}

theorem IsPlain.isUnreserved (h : IsPlain host) : ∀ c ∈ host, isUnreserved c = true := by
  intro c hc
  rcases h.chars c hc with hw | rfl
  case inl => exact isUnreserved_of_isWordChar hw
  case inr => decide

theorem normalLabels_of_isAscii {labels : List (List Char)}
    (h : ∀ label ∈ labels, Label.isAscii label = true) :
    normalLabels labels = .ok (labels.map (List.map Char.toLower)) := by
  induction labels
  case nil => rfl
  case cons label labels hi =>
    simp only [List.mem_cons, forall_eq_or_imp] at h
    simp [normalLabels, Label.encode?, h.left, hi h.right, Except.map]

theorem IsPlain.lower (h : IsPlain host) : IsPlain (host.map Char.toLower) where
  ne_nil := by simpa using h.ne_nil
  head := by
    rw [List.head?_map]
    cases hc : host.head?
    case none => nofun
    case some c =>
      rcases h.chars c (List.mem_of_head? hc) with hw | rfl
      case inl =>
        intro hd
        have hl := isWordChar_toLower hw
        rw [Option.some.inj hd] at hl
        revert hl
        decide
      case inr => exact absurd hc h.head
  chars := by
    rw [List.forall_mem_map]
    intro c hc
    rcases h.chars c hc with hw | rfl
    case inl => exact .inl <| isWordChar_toLower hw
    case inr => exact .inr rfl

-- A numeric host has no other form than the one it is in.
theorem IsPlain.normal (h : IsPlain host) :
    ∃ host', IsPlain host' ∧ normal host = .ok host' := by
  have hu := h.isUnreserved
  have ⟨_, hc, hr, hf⟩ := escapes_of_not_mem (not_mem_of_isUnreserved hu (d := '%') (by decide))
  have hb : Host.normal host = normalName host := by
    unfold Host.normal
    split
    case h_1 => exact absurd (.head _) <| not_mem_of_isUnreserved hu (d := '[') (by decide)
    case h_2 => rfl
  rw [hb, normalName, hf]
  dsimp only
  split
  case isTrue => exact ⟨host, h, rfl⟩
  case isFalse =>
    refine ⟨host.map Char.toLower, h.lower, ?_⟩
    have ha : ∀ label ∈ host.splitOn '.', Label.isAscii label = true := by
      intro label hl
      refine List.all_eq_true.mpr fun c hm => ?_
      have hd : c ∉ ['.'] := by
        simpa using ne_of_mem_of_not_mem hm (Text.not_mem_of_mem_splitOn hl)
      have hc := (Text.mem_intercalate hd).mpr ⟨label, hl, hm⟩
      rw [List.intercalate_splitOn] at hc
      have := toNat_of_isUnreserved <| hu c hc
      simp only [decide_eq_true_eq]
      omega
    have ⟨_, hc', _⟩ :=
      escapes_of_not_mem (not_mem_of_isUnreserved h.lower.isUnreserved (d := '%') (by decide))
    have hm := Text.map_intercalate Char.toLower '.' (host.splitOn '.')
    rw [List.intercalate_splitOn] at hm
    rw [hr, hc, normalLabels_of_isAscii ha, Except.map]
    exact congrArg Except.ok (hm ▸ hc')

end Host

namespace Url

variable {s : List Char} {segments : List (List Char)}

theorem escapePart_of_all {allowed : Char → Bool} (hp : '%' ∉ s) (h : ∀ c ∈ s, allowed c = true) :
    escapePart allowed s = s := by
  have ⟨_, hu, _⟩ := escapes_of_not_mem hp
  rw [escapePart, hu]
  exact escape_of_all fun c hc => by simp [h c hc]

theorem sendPart_of_all (hp : '%' ∉ s) (h : ∀ c ∈ s, isSafe c = true) : sendPart false s = s := by
  have ⟨_, _, hr, _⟩ := escapes_of_not_mem hp
  rw [sendPart, if_neg Bool.false_ne_true, hr]
  exact escape_of_all fun c hc => by simp [h c hc]

theorem removeDots_of_not_mem (h : ∀ segment ∈ segments, '.' ∉ segment) (kept : List (List Char)) :
    removeDots kept segments = kept.reverse ++ segments := by
  induction segments generalizing kept
  case nil => simp [removeDots]
  case cons segment segments hi =>
    simp only [List.mem_cons, forall_eq_or_imp] at h
    have hs : segment ≠ ['.'] ∧ segment ≠ ['.', '.'] := by
      refine ⟨?_, ?_⟩ <;> rintro rfl <;> exact h.left (by simp)
    simp [removeDots, hs, hi h.right]

def plainPath (segments : List (List Char)) : List Char :=
  ['/'].intercalate ([] :: segments)

section

variable (hn : segments ≠ []) (hs : ∀ segment ∈ segments, ∀ c ∈ segment, isWordChar c = true)
include hs

theorem mem_plainPath {c : Char} (hc : c ∈ plainPath segments) : c = '/' ∨ isWordChar c = true := by
  by_cases hd : c = '/'
  case pos => exact .inl hd
  case neg =>
    have ⟨segment, hm, h⟩ := (Text.mem_intercalate (by simpa using hd)).mp hc
    rcases List.mem_cons.mp hm with rfl | hm
    case inl => cases h
    case inr => exact .inr <| hs segment hm c h

theorem splitOn_plainPath : (plainPath segments).splitOn '/' = [] :: segments := by
  refine List.splitOn_intercalate '/' ?_ (by simp)
  intro segment hm
  rcases List.mem_cons.mp hm with rfl | hm
  case inl => simp
  case inr =>
    exact not_mem_of_isUnreserved (fun c hc => isUnreserved_of_isWordChar (hs segment hm c hc))
      (by decide)

theorem resolvePath_plainPath : resolvePath (plainPath segments) = plainPath segments := by
  have hd : ∀ segment ∈ [] :: segments, '.' ∉ segment := by
    intro segment hm hc
    rcases List.mem_cons.mp hm with rfl | hm
    case inl => cases hc
    case inr => exact absurd (hs segment hm '.' hc) (by decide)
  have hl : ([] :: segments).getLast? ≠ some ['.'] ∧
      ([] :: segments).getLast? ≠ some ['.', '.'] := by
    refine ⟨?_, ?_⟩ <;>
      exact fun hl => hd _ (List.mem_of_getLast? hl) (by simp)
  rw [resolvePath, splitOn_plainPath hs, removeDots_of_not_mem hd]
  simp [hl, plainPath]

end

-- The characters that an address of words is made of, but for the colon after its scheme.
theorem isUnreserved_or_slash (hs : ∀ segment ∈ segments, ∀ c ∈ segment, isWordChar c = true)
    {c : Char} (hc : c ∈ plainPath segments) : c = '/' ∨ isUnreserved c = true :=
  (mem_plainPath hs hc).imp_right isUnreserved_of_isWordChar

def plainAddress (scheme host : List Char) (segments : List (List Char)) : List Char :=
  scheme ++ ':' :: '/' :: '/' :: (host ++ plainPath segments)

def plain (scheme host : List Char) (segments : List (List Char)) : Url where
  scheme   := scheme
  user     := []
  host     := host
  port     := none
  path     := plainPath segments
  query    := []
  fragment := []

variable {scheme host : List Char}

section

variable (hw : isWebScheme scheme = true)
include hw

theorem eq_of_isWebScheme : scheme = "https".toList ∨ scheme = "http".toList := by
  simp only [isWebScheme, Bool.or_eq_true, decide_eq_true_eq] at hw
  exact hw

theorem splitScheme?_plainAddress :
    splitScheme? (plainAddress scheme host segments) =
      some (scheme, '/' :: '/' :: (host ++ plainPath segments)) := by
  rcases eq_of_isWebScheme hw with rfl | rfl <;> rfl

theorem dropBlank_plainAddress :
    Text.dropBlank (plainAddress scheme host segments) = plainAddress scheme host segments := by
  rcases eq_of_isWebScheme hw with rfl | rfl <;> rfl

theorem isForeign_plainAddress :
    Address.isForeign (plainAddress scheme host segments) = false := by
  rcases eq_of_isWebScheme hw with rfl | rfl <;>
    simp [Address.isForeign, plainAddress, List.isPrefixOf]

theorem rooted_plainAddress :
    rooted (plainAddress scheme host segments) = plainAddress scheme host segments := by
  rw [rooted, splitScheme?_plainAddress hw]
  rfl

theorem mem_plainAddress (hh : Host.IsPlain host)
    (hs : ∀ segment ∈ segments, ∀ c ∈ segment, isWordChar c = true) {c : Char}
    (hc : c ∈ plainAddress scheme host segments) : c = '/' ∨ c = ':' ∨ isUnreserved c = true := by
  have hk : ∀ c ∈ scheme, isUnreserved c = true := by
    rcases eq_of_isWebScheme hw with rfl | rfl <;> exact List.all_eq_true.mp (by decide)
  simp only [plainAddress, List.mem_append, List.mem_cons] at hc
  rcases hc with hc | rfl | rfl | rfl | hc | hc
  case inl => exact .inr <| .inr <| hk c hc
  case inr.inl => exact .inr <| .inl rfl
  case inr.inr.inr.inr.inl => exact .inr <| .inr <| hh.isUnreserved c hc
  case inr.inr.inr.inr.inr => exact (isUnreserved_or_slash hs hc).imp_right .inr
  all_goals exact .inl rfl

end

section

variable (hw : isWebScheme scheme = true) (hh : Host.IsPlain host) (hn : segments ≠ [])
  (hs : ∀ segment ∈ segments, ∀ c ∈ segment, isWordChar c = true)

theorem splitUserInfo_of_not_mem {authority : List Char} (h : '@' ∉ authority) :
    Authority.splitUserInfo authority = (none, authority) := by
  have hp : ∀ c ∈ authority.reverse, (c != '@') = true := by
    intro c hc
    simpa using ne_of_mem_of_not_mem (List.mem_reverse.mp hc) h
  rw [Authority.splitUserInfo, List.takeWhile_eq_self_iff.mpr hp, List.dropWhile_eq_nil_iff.mpr hp,
    List.reverse_reverse]

include hh in
theorem resolveAuthority_plain (address : List Char) :
    ∃ host', Host.IsPlain host' ∧ resolveAuthority true address host = .ok ([], host', 0) := by
  have hu := hh.isUnreserved
  have ⟨host', hh', hn⟩ := hh.normal
  have ⟨he, _⟩ := escapes_of_not_mem (not_mem_of_isUnreserved hu (d := '%') (by decide))
  have hi := splitUserInfo_of_not_mem <| not_mem_of_isUnreserved hu (d := '@') (by decide)
  have hc : host.find? Host.isControl = none := by
    refine List.find?_eq_none.mpr fun c hc => ?_
    have := toNat_of_isUnreserved (hu c hc)
    simp only [Host.isControl, Bool.or_eq_true, decide_eq_true_eq, beq_iff_eq]
    omega
  have hp : splitPort? host = some (host, 0) := by
    have hm : Host.isName host = true := by
      rw [Host.isName, he, Bool.and_true, List.all_eq_true]
      intro c hc
      have hn {d : Char} : isUnreserved d = false → c ≠ d := ne_of_isUnreserved (hu c hc)
      simp [Host.isNameChar, hn (d := '[') (by decide), hn (d := ']') (by decide),
        hn (d := ':') (by decide)]
    have hd : cut ':' host = (host, none) :=
      cut_of_not_mem <| not_mem_of_isUnreserved hu (by decide)
    unfold splitPort?
    split
    case h_1 => exact absurd (.head _) <| not_mem_of_isUnreserved hu (d := '[') (by decide)
    case h_2 =>
      simp only [hd, hm]
      rfl
  refine ⟨host', hh', ?_⟩
  simp only [resolveAuthority, hi, hc, hp, resolveHost, hn]
  rfl

include hn hs

theorem resolve_plain (authority : List Char) :
    Parts.resolve ⟨some scheme, authority, plainPath segments, [], []⟩ true scheme [] host 0 =
      plain scheme host segments := by
  have hp : escapePart isPathChar (plainPath segments) = plainPath segments := by
    refine escapePart_of_all (fun hc => ?_) fun c hc => ?_
    · rcases isUnreserved_or_slash hs hc with h | h <;> revert h <;> decide
    · rcases isUnreserved_or_slash hs hc with rfl | h
      case inl => decide
      case inr => simp [isPathChar, isUserChar, h]
  have he : ensureSlash (plainPath segments) = plainPath segments := by
    cases segments
    case nil => exact absurd rfl hn
    case cons => rfl
  simp only [Parts.resolve, resolvePart, if_true, resolvePath_plainPath hs, hp, he]
  rfl

include hw hh

theorem ofChars_plainAddress :
    Parts.ofChars (plainAddress scheme host segments) =
      ⟨some scheme, host, plainPath segments, [], []⟩ := by
  have hl : scheme.map Char.toLower = scheme := by
    rcases eq_of_isWebScheme hw with rfl | rfl <;> rfl
  have ⟨rest, hp⟩ : ∃ rest, plainPath segments = '/' :: rest := by
    cases segments
    case nil => exact absurd rfl hn
    case cons => exact ⟨_, rfl⟩
  have he : ∀ c ∈ host, (!endsAuthority c) = true := by
    intro c hc
    have hn {d : Char} : isUnreserved d = false → c ≠ d :=
      ne_of_isUnreserved (hh.isUnreserved c hc)
    simp [endsAuthority, hn (d := '/') (by decide), hn (d := '\\') (by decide),
      hn (d := '?') (by decide), hn (d := '#') (by decide)]
  have ha : splitAuthority ('/' :: '/' :: (host ++ plainPath segments)) =
      (host, plainPath segments) := by
    rw [splitAuthority, List.takeWhile_append_of_pos he, List.dropWhile_append_of_pos he, hp]
    simp [endsAuthority]
  have hc {d : Char} (hd : isUnreserved d = false) (hs' : d ≠ '/') :
      cut d (plainPath segments) = (plainPath segments, none) := by
    refine cut_of_not_mem fun hm => ?_
    rcases isUnreserved_or_slash hs hm with h | h
    case inl => exact hs' h
    case inr => exact ne_of_isUnreserved h hd rfl
  rw [Parts.ofChars, splitScheme?_plainAddress hw]
  simp only [hl, Parts.ofRest, ha, hc (d := '#') (by decide) (by decide),
    hc (d := '?') (by decide) (by decide)]
  rfl

theorem normal_plainAddress : ∃ host', Host.IsPlain host' ∧
    normal (String.ofList (plainAddress scheme host segments)) =
      .ok (plain scheme host' segments) := by
  have ⟨host', hh', hr⟩ := resolveAuthority_plain hh (plainAddress scheme host segments)
  refine ⟨host', hh', ?_⟩
  have hl : sentHost? host' = some host' := by
    have ha : Label.isAscii host' = true := by
      refine List.all_eq_true.mpr fun c hc => ?_
      have := toNat_of_isUnreserved (hh'.isUnreserved c hc)
      simp only [decide_eq_true_eq]
      omega
    have hi : isHost host' = true := by
      have hd : host'.head? ≠ some '*' := fun hd =>
        not_mem_of_isUnreserved hh'.isUnreserved (d := '*') (by decide) <| List.mem_of_head? hd
      simp [isHost, hd, hh'.head]
    rw [sentHost?, if_pos ha, if_pos hi]
  have he : host'.isEmpty = false := by simpa using hh'.ne_nil
  have hp : (some scheme).all isWebScheme = true := hw
  unfold normal
  rw [String.toList_ofList, rooted_plainAddress hw]
  simp only [ofChars_plainAddress hw hh hn hs, hp, hr, he, hl, resolve_plain hn hs]
  rfl

end

theorem sent_plain (hh : Host.IsPlain host)
    (hs : ∀ segment ∈ segments, ∀ c ∈ segment, isWordChar c = true) :
    sent (plain scheme host segments) = plain scheme host segments := by
  have hu := hh.isUnreserved
  have hn : '%' ∉ host := not_mem_of_isUnreserved hu (by decide)
  have hn' : '%' ∉ plainPath segments := fun hc => by
    rcases isUnreserved_or_slash hs hc with h | h <;> revert h <;> decide
  have hb := hasBrokenEscape_of_wellEscaped (escapes_of_not_mem hn).left
  have hb' := hasBrokenEscape_of_wellEscaped (escapes_of_not_mem hn').left
  have he : sendPart false host = host :=
    sendPart_of_all hn fun c hc => by simp [isSafe, hu c hc]
  have he' : sendPart false (plainPath segments) = plainPath segments := by
    refine sendPart_of_all hn' fun c hc => ?_
    rcases isUnreserved_or_slash hs hc with rfl | h
    case inl => decide
    case inr => simp [isSafe, h]
  have hz : hasBrokenEscape [] = false := rfl
  simp only [sent, plain, List.any_cons, List.any_nil, hb, hb', hz, Bool.or_false, he, he']
  rfl

end Url

namespace Authority

variable {authority : List Char}

theorem fault?_eq_none (h : ∀ c ∈ authority, c = '/' ∨ c = ':' ∨ isUnreserved c = true) :
    fault? authority = none := by
  have hn {d : Char} (hd : isUnreserved d = false) (hs : d ≠ '/') (hc : d ≠ ':') :
      d ∉ authority := by
    intro hm
    rcases h d hm with h | h | h
    case inl => exact hs h
    case inr.inl => exact hc h
    case inr.inr => exact ne_of_isUnreserved h hd rfl
  have ha : authority.any isAmbiguous = false := by
    refine List.any_eq_false.mpr fun c hc => ?_
    have hl : c.toNat < 0x7F := by
      rcases h c hc with rfl | rfl | h
      case inl => decide
      case inr.inl => decide
      case inr.inr => exact (toNat_of_isUnreserved h).right
    simp only [isAmbiguous, List.contains_eq_mem, decide_eq_true_eq, List.mem_cons,
      List.not_mem_nil, or_false]
    omega
  simp [fault?, hn (d := '[') (by decide) (by decide) (by decide),
    hn (d := ']') (by decide) (by decide) (by decide), ha]

theorem mem_of_mem_dropScheme {address : List Char} {c : Char} (h : c ∈ dropScheme address) :
    c ∈ address := by
  unfold dropScheme at h
  split at h
  case h_1 hd =>
    split at h
    case isTrue => exact (List.dropWhile_sublist _).mem <| hd ▸ List.mem_cons_of_mem _ h
    case isFalse => exact h
  case h_2 => exact h

theorem mem_of_mem_ofAddress {address : List Char} {c : Char} (h : c ∈ ofAddress address) :
    c ∈ address := by
  unfold ofAddress at h
  split at h
  case h_1 rest hd =>
    have hm : c ∈ '/' :: '/' :: rest := .tail _ <| .tail _ <| (List.takeWhile_sublist _).mem h
    rw [← hd] at hm
    exact (List.dropWhile_sublist _).mem <| (List.mem_filter.mp <| mem_of_mem_dropScheme hm).left
  case h_2 => cases h

end Authority

namespace Request

-- A request for an address of words, with headers that can be sent, goes out as it was asked for.
theorem prepare_plain {scheme host : List Char} {segments : List (List Char)} {headers : Headers}
    (hw : Url.isWebScheme scheme = true) (hh : Host.IsPlain host) (hn : segments ≠ [])
    (hs : ∀ segment ∈ segments, ∀ c ∈ segment, isWordChar c = true) (hf : headers.fault? = none)
    (method : String) :
    ∃ host', Host.IsPlain host' ∧
      prepare {
        method  := method
        address := String.ofList (Url.plainAddress scheme host segments)
        headers := headers.given } =
      .ok {
        method  := String.ofList (Text.upper method.toList)
        url     := Url.plain scheme host' segments
        headers := headers
        body    := none } := by
  have ⟨host', hh', hu⟩ := Url.normal_plainAddress hw hh hn hs
  have ha : Url.authority (Url.plain scheme host' segments) = host' := by
    simp [Url.authority, Url.plain]
  have hc : Authority.fault? (Authority.ofAddress (Url.plainAddress scheme host segments)) = none :=
    Authority.fault?_eq_none fun c hc =>
      Url.mem_plainAddress hw hh hs <| Authority.mem_of_mem_ofAddress hc
  have ht : Address.ofText (String.ofList (Url.plainAddress scheme host segments)) [] =
      .ok (.url (Url.plain scheme host' segments)) := by
    have hp := @ofText_eq_ok (String.ofList (Url.plainAddress scheme host segments))
      (Url.plain scheme host' segments)
    rw [String.toList_ofList, Url.dropBlank_plainAddress hw] at hp
    rw [hp hu (Url.isForeign_plainAddress hw)]
    have hs : Url.sent { Url.plain scheme host' segments with query := Url.joinQuery [] [] } =
        Url.plain scheme host' segments := Url.sent_plain hh' hs
    exact congrArg (Except.ok <| Address.url ·) hs
  refine ⟨host', hh', prepared_iff.mp <| .sent (String.toList_ofList ▸ hc) ht ?_ (if_pos hw)⟩
  rw [outgoing_given, hf]
  dsimp only [Address.authority]
  rw [ha, Authority.fault?_eq_none fun c hc => .inr <| .inr <| hh'.isUnreserved c hc]
  dsimp only
  rw [authorize, Authority.credentials?, Url.splitUserInfo_of_not_mem]
  · rfl
  · exact not_mem_of_isUnreserved hh'.isUnreserved (by decide)

end Request

end DocStore
