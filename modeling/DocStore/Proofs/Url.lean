import DocStore.Proofs.Form
import Mathlib.Data.List.TakeWhile
import DocStore.Url

namespace DocStore

namespace Url

open Percent

theorem wellEscaped_escapePart {allowed : Char → Bool}
    (ha : ∀ c, isAsciiAlphanumeric c = true → allowed c = true) (hp : allowed '%' = false)
    (part : List Char) : wellEscaped (escapePart allowed part) = true := by
  unfold escapePart
  by_cases h : wellEscaped (upperEscapes part) = true
  case pos =>
    exact wellEscaped_escape_of_wellEscaped (fun c hc => by simp [ha c hc]) (by simp [h]) h
  case neg => exact wellEscaped_escape (by simp [hp, h]) _

theorem isUserChar_of_isAsciiAlphanumeric {c : Char} (h : isAsciiAlphanumeric c = true) :
    isUserChar c = true := by
  simp [isUserChar, isUnreserved_of_isAsciiAlphanumeric h]

theorem isPathChar_of_isAsciiAlphanumeric {c : Char} (h : isAsciiAlphanumeric c = true) :
    isPathChar c = true := by
  simp [isPathChar, isUserChar_of_isAsciiAlphanumeric h]

theorem isQueryChar_of_isAsciiAlphanumeric {c : Char} (h : isAsciiAlphanumeric c = true) :
    isQueryChar c = true := by
  simp [isQueryChar, isPathChar_of_isAsciiAlphanumeric h]

theorem wellEscaped_ensureSlash {path : List Char} (h : wellEscaped path = true) :
    wellEscaped (ensureSlash path) = true := by
  unfold ensureSlash
  split
  case isTrue => exact h
  case isFalse => rwa [wellEscaped_cons_of_ne (by decide)]

-- The parts of an address that its host cannot break have no broken escapes.
structure Tidy (u : Url) : Prop where
  user     : wellEscaped u.user = true
  path     : wellEscaped u.path = true
  query    : wellEscaped u.query = true
  fragment : wellEscaped u.fragment = true

theorem tidy_resolve (p : Parts) {user : List Char} (h : wellEscaped user = true)
    (scheme host : List Char) (port : Nat) : (p.resolve true scheme user host port).Tidy where
  user     := h
  path     := wellEscaped_ensureSlash <|
    wellEscaped_escapePart (fun _ => isPathChar_of_isAsciiAlphanumeric) (by decide) _
  query    := wellEscaped_escapePart (fun _ => isQueryChar_of_isAsciiAlphanumeric) (by decide) _
  fragment := wellEscaped_escapePart (fun _ => isQueryChar_of_isAsciiAlphanumeric) (by decide) _

theorem wellEscaped_user {address authority user host : List Char} {port : Nat}
    (h : resolveAuthority true address authority = .ok (user, host, port)) :
    wellEscaped user = true := by
  suffices ∃ part, user = escapePart isUserChar part by
    have ⟨_, he⟩ := this
    exact he ▸ wellEscaped_escapePart (fun _ => isUserChar_of_isAsciiAlphanumeric) (by decide) _
  unfold resolveAuthority at h
  dsimp only at h
  split at h
  case h_1 => cases h
  case h_2 =>
    split at h
    case h_1 => cases h
    case h_2 host' _ _ =>
      split at h
      case isTrue => cases h
      case isFalse =>
        cases hr : resolveHost true host'
        case error => simp [hr, bind, Except.bind] at h
        case ok =>
          simp only [hr, bind, Except.bind, pure, Except.pure, Except.ok.injEq,
            Prod.mk.injEq] at h
          exact ⟨_, h.left.symm⟩

theorem normal_eq_ok {address : String} {u : Url} (h : normal address = .ok u) :
    ∃ scheme user host port,
      u = (Parts.ofChars (rooted address.toList)).resolve (isWebScheme scheme) scheme user host
        port ∧ (isWebScheme scheme = true → wellEscaped user = true) := by
  unfold normal at h
  dsimp only at h
  split at h
  case h_1 => cases h
  case h_2 user host port hr =>
    split at h
    case h_1 => cases h
    case h_2 scheme hs =>
      rw [hs, Option.all_some] at h hr
      repeat' split at h
      all_goals cases h
      exact ⟨scheme, user, _, port, rfl, fun hw => wellEscaped_user (hw ▸ hr)⟩

theorem tidy_normal {address : String} {u : Url} (h : normal address = .ok u)
    (hw : isWebScheme u.scheme = true) : u.Tidy := by
  have ⟨scheme, user, host, port, he, hu⟩ := normal_eq_ok h
  subst he
  have hw : isWebScheme scheme = true := hw
  rw [hw]
  exact tidy_resolve _ (hu hw) ..

theorem cut_of_not_mem {c : Char} {s : List Char} (h : c ∉ s) : cut c s = (s, none) := by
  have hp : ∀ d ∈ s, (d != c) = true := by
    intro d hd
    simpa using ne_of_mem_of_not_mem hd h
  simp [cut, List.takeWhile_eq_self_iff.mpr hp, List.dropWhile_eq_nil_iff.mpr hp]

theorem mem_of_mem_splitAuthority {c : Char} {s : List Char} (h : c ∈ (splitAuthority s).2) :
    c ∈ s := by
  unfold splitAuthority at h
  split at h
  case h_1 => exact .tail _ <| .tail _ <| (List.dropWhile_sublist _).mem h
  case h_2 => exact h

theorem mem_of_mem_splitScheme? {c : Char} {s scheme rest : List Char}
    (h : splitScheme? s = some (scheme, rest)) (hc : c ∈ rest) : c ∈ s := by
  unfold splitScheme? at h
  split at h
  case h_1 first more rest' _ hd =>
    split at h
    case isTrue =>
      cases h
      exact (List.dropWhile_sublist _).mem <| hd ▸ List.mem_cons_of_mem _ hc
    case isFalse => cases h
  case h_2 => cases h

theorem query_ofRest {scheme : Option (List Char)} {s : List Char} (h : '?' ∉ s) :
    (Parts.ofRest scheme s).query = [] := by
  have hc : '?' ∉ (cut '#' (splitAuthority s).2).1 := fun hc =>
    h <| mem_of_mem_splitAuthority <| (List.takeWhile_sublist _).mem hc
  simp [Parts.ofRest, cut_of_not_mem hc]

theorem query_ofChars {s : List Char} (h : '?' ∉ s) : (Parts.ofChars s).query = [] := by
  unfold Parts.ofChars
  split
  case h_1 hs => exact query_ofRest fun hc => h <| mem_of_mem_splitScheme? hs hc
  case h_2 => exact query_ofRest h

theorem not_mem_rooted {address : List Char} (h : '?' ∉ address) : '?' ∉ rooted address := by
  unfold rooted
  split
  case isTrue => exact h
  case isFalse => simp [h]

theorem query_normal {address : String} {u : Url} (h : normal address = .ok u)
    (hq : '?' ∉ address.toList) : u.query = [] := by
  have ⟨scheme, user, host, port, he, _⟩ := normal_eq_ok h
  rw [he]
  simp [Parts.resolve, query_ofChars (not_mem_rooted hq), resolvePart, escapePart, upperEscapes,
    escape]

@[simp] theorem joinQuery_nil (parameters : List (String × String)) :
    joinQuery [] parameters = Form.encode parameters := by
  simp +contextual [joinQuery]

-- Parameters come after what is there, if there is anything on either side.
theorem joinQuery_cases (query : List Char) (parameters : List (String × String)) :
    Form.encode parameters = [] ∧ joinQuery query parameters = query ∨
    query = [] ∧ joinQuery query parameters = Form.encode parameters ∨
    joinQuery query parameters = query ++ '&' :: Form.encode parameters := by
  cases query
  case nil => exact .inr <| .inl ⟨rfl, joinQuery_nil parameters⟩
  case cons =>
    cases hf : Form.encode parameters
    case nil => exact .inl ⟨rfl, by simp [joinQuery, hf]⟩
    case cons => exact .inr <| .inr <| by simp [joinQuery, hf]

theorem hasBrokenEscape_joinQuery (query : List Char) (parameters : List (String × String)) :
    hasBrokenEscape (joinQuery query parameters) = hasBrokenEscape query := by
  have hf := hasBrokenEscape_of_wellEscaped (Form.escapesReserved_encode parameters).wellEscaped
  rcases joinQuery_cases query parameters with ⟨-, h⟩ | ⟨rfl, h⟩ | h
  case inl => rw [h]
  case inr.inl => rw [h, hf, hasBrokenEscape]
  case inr.inr => rw [h, hasBrokenEscape_append, hf, Bool.or_false]

def isBroken (u : Url) : Bool :=
  [u.user, u.host, u.path, u.query, u.fragment].any hasBrokenEscape

-- Parameters break nothing, so they only change the query that is sent.
theorem sent_joinQuery (u : Url) (parameters : List (String × String)) :
    sent { u with query := joinQuery u.query parameters } =
      { sent u with query := sendPart u.isBroken (joinQuery u.query parameters) } := by
  simp [sent, isBroken, hasBrokenEscape_joinQuery]

-- Whether the escapes of a tidy address are broken is up to its host alone.
theorem Tidy.isBroken_eq {u : Url} (h : u.Tidy) : u.isBroken = hasBrokenEscape u.host := by
  simp [isBroken, hasBrokenEscape_of_wellEscaped h.user, hasBrokenEscape_of_wellEscaped h.path,
    hasBrokenEscape_of_wellEscaped h.query, hasBrokenEscape_of_wellEscaped h.fragment]

theorem sendPart_append (isBroken : Bool) (s t : List Char) :
    sendPart isBroken (s ++ '&' :: t) = sendPart isBroken s ++ '&' :: sendPart isBroken t := by
  have hs : isSafe '&' = true := by decide
  cases isBroken <;> simp [sendPart, unescapeUnreserved_append, escape, escapeChar, hs]

-- A reader finds the parameters after those of the query that is there.
theorem decode_sendPart_joinQuery (isBroken : Bool) (query : List Char)
    (parameters : List (String × String)) :
    Form.decode (sendPart isBroken (joinQuery query parameters)) =
      Form.decode (sendPart isBroken query) ++
        Form.decode (sendPart isBroken (Form.encode parameters)) := by
  have hn : Form.decode (sendPart isBroken []) = [] := by cases isBroken <;> rfl
  rcases joinQuery_cases query parameters with ⟨he, h⟩ | ⟨rfl, h⟩ | h
  case inl => rw [h, he, hn, List.append_nil]
  case inr.inl => rw [h, hn, List.nil_append]
  case inr.inr => rw [h, sendPart_append, Form.decode_append]

theorem escape_of_all {keep : Char → Bool} {s : List Char} (h : ∀ c ∈ s, keep c = true) :
    escape keep s = s := by
  unfold escape
  induction s
  case nil => rfl
  case cons c s hi =>
    simp only [List.mem_cons, forall_eq_or_imp] at h
    simp [escapeChar, h.left, hi h.right]

theorem sendPart_encode (parameters : List (String × String)) :
    sendPart false (Form.encode parameters) = Form.encode parameters := by
  have hs : ∀ c ∈ Form.encode parameters, (isSafe c || decide (c = '%')) = true := by
    intro c hc
    rcases Form.mem_encode hc with rfl | rfl | rfl | rfl | hu
    case inr.inr.inr.inr => simp [isSafe, hu]
    all_goals decide
  simp [sendPart, (Form.escapesReserved_encode parameters).unescapeUnreserved, escape_of_all hs]

-- They are read as they were written, unless they are escaped once more on the way.
theorem decode_sendPart_encode (isBroken : Bool) {parameters : List (String × String)}
    (h : ∀ parameter ∈ parameters, parameter.2 ≠ "") :
    Form.decode (sendPart isBroken (Form.encode parameters)) =
      if isBroken then parameters.map (Prod.map Form.spelled Form.spelled) else parameters := by
  cases isBroken
  case false =>
    rw [sendPart_encode, Form.decode_encode h]
    rfl
  case true =>
    exact Form.decode_escape_encode (by decide) (by decide) (by decide) (by decide) h

-- A host that breaks the escapes of its address keeps its percent sign.
theorem mem_sendPart_of_hasBrokenEscape {s : List Char} (h : hasBrokenEscape s = true) :
    '%' ∈ sendPart true s := by
  suffices '%' ∈ escape isSafe s from this
  refine List.mem_flatMap.mpr ⟨'%', mem_of_hasBrokenEscape h, ?_⟩
  decide

end Url

end DocStore
