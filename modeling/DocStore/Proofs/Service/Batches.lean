import DocStore.Proofs.Service.Apply

namespace DocStore.Service

-- Goes on with a second part of a batch, unless the first one has ended it.
def andThen (first : Attempt (List Json)) (second : Documents → Attempt (List Json)) :
    Attempt (List Json) :=
  match first with
  | (documents, .error h) => halted documents h
  | (documents, .ok entries) => ((second documents).1, (second documents).2.map (entries ++ ·))

theorem applyItems_cons (item : Json) (items : List Json) (documents : Documents) :
    applyItems (item :: items) documents =
      andThen ((applyItem item documents).1, (applyItem item documents).2.map ([·]))
        (applyItems items) := by
  rw [applyItems]
  rcases applyItem item documents with ⟨documents, _ | _⟩ <;> rfl

theorem andThen_assoc (first : Attempt (List Json))
    (second third : Documents → Attempt (List Json)) :
    andThen (andThen first second) third =
      andThen first fun documents => andThen (second documents) third := by
  obtain ⟨documents, _ | entries⟩ := first
  case error => rfl
  case ok =>
    simp only [andThen]
    rcases second documents with ⟨documents, _ | entries'⟩
    case error => rfl
    case ok => cases h : (third documents).2 <;> simp [Except.map, h]

theorem applyItems_append (items rest : List Json) (documents : Documents) :
    applyItems (items ++ rest) documents =
      andThen (applyItems items documents) (applyItems rest) := by
  induction items generalizing documents
  case nil =>
    rcases h : applyItems rest documents with ⟨documents', _ | _⟩ <;>
      simp [applyItems, andThen, Except.map, h]
  case cons item items hi =>
    rw [List.cons_append, applyItems_cons, applyItems_cons, andThen_assoc, funext hi]

def IsEntryOf (item entry : Json) : Prop :=
  ∃ kind payload rest, item = .object ((kind, payload) :: rest) ∧ entry = entryOf kind payload

theorem isEntryOf_of_applyItem {item entry : Json} {documents documents' : Documents}
    (h : applyItem item documents = (documents', .ok entry)) : IsEntryOf item entry := by
  unfold applyItem at h
  split at h
  case h_1 kind payload rest =>
    split at h
    case h_1 =>
      cases h
      exact ⟨kind, payload, rest, rfl, rfl⟩
    case h_2 => cases h
  case h_2 => cases h
  case h_3 => cases h

-- A batch that was carried out has an entry for each of its items, in their order.
theorem areEntriesOf_of_applyItems {items entries : List Json} {documents documents' : Documents}
    (h : applyItems items documents = (documents', .ok entries)) :
    List.Forall₂ IsEntryOf items entries := by
  induction items generalizing documents entries
  case nil =>
    cases h
    exact .nil
  case cons item items hi =>
    rw [applyItems] at h
    rcases ha : applyItem item documents with ⟨documents₁, _ | entry⟩
    case error =>
      rw [ha] at h
      cases h
    case ok =>
      rw [ha] at h
      dsimp only at h
      rcases hr : applyItems items documents₁ with ⟨documents₂, _ | rest⟩
      case error =>
        rw [hr] at h
        cases h
      case ok =>
        rw [hr] at h
        cases h
        exact .cons (isEntryOf_of_applyItem ha) (hi hr)

def batch (items : List Json) : Json :=
  .object [("mutations", .array items)]

def answerBody (body : Json) (documents : Documents) : Documents × Except Fault Answer :=
  match itemsOf body with
  | .error fault => (documents, .error fault)
  | .ok items => answerItems items documents

theorem answerMutate_eq {stack : Stack} {r : Request} {body : Json}
    (h : bodyJson stack r "\x7b\x7d" = .ok body) (documents : Documents) :
    answerMutate stack r documents = answerBody body documents := by
  rw [answerMutate, h]
  rfl

def Succeeds (result : Except Fault Answer) : Prop :=
  ∃ answer, result = .ok answer ∧ answer.code = 200

def outcomeOf : Except Halt (List Json) → Except Fault Answer
  | .ok entries => .ok (mutatedAnswer entries)
  | .error (.refused refusal) => .ok (refused refusal)
  | .error (.fault fault) => .error fault

theorem answerBody_batch (items : List Json) (documents : Documents) :
    answerBody (batch items) documents =
      ((applyItems items documents).1, outcomeOf (applyItems items documents).2) := by
  change answerItems items documents = _
  rw [answerItems]
  rcases applyItems items documents with ⟨documents', (refusal | fault) | entries⟩ <;> rfl

theorem succeeds_outcomeOf_iff {result : Except Halt (List Json)} :
    Succeeds (outcomeOf result) ↔ ∃ entries, result = .ok entries := by
  constructor
  case mp =>
    rintro ⟨answer, ha, hc⟩
    rcases result with (refusal | fault) | entries
    case error.refused =>
      cases ha
      cases refusal <;> cases hc
    case error.fault => cases ha
    case ok => exact ⟨entries, rfl⟩
  case mpr =>
    rintro ⟨entries, rfl⟩
    exact ⟨_, rfl, rfl⟩

-- A batch in two parts is answered as its first part, unless that is a success. Then the second
-- part is carried out after it, and the batch is answered as that part, with the entries of both if
-- it is a success as well.
theorem answerBody_append :
    (∀ (stack : Stack) (r : Request) (body : Json), bodyJson stack r "\x7b\x7d" = .ok body →
      ∀ documents, answerMutate stack r documents = answerBody body documents) ∧
    ∀ (items rest : List Json) (documents : Documents),
      let first := answerBody (batch items) documents
      let second := answerBody (batch rest) first.1
      let whole := answerBody (batch (items ++ rest)) documents
      (¬Succeeds first.2 → whole = first) ∧
      (Succeeds first.2 → ∃ entries, List.Forall₂ IsEntryOf items entries ∧
        first.2 = .ok (mutatedAnswer entries) ∧ whole.1 = second.1 ∧
        (¬Succeeds second.2 → whole.2 = second.2) ∧
        (Succeeds second.2 → ∃ entries', List.Forall₂ IsEntryOf rest entries' ∧
          second.2 = .ok (mutatedAnswer entries') ∧
          whole.2 = .ok (mutatedAnswer (entries ++ entries')))) := by
  refine ⟨fun stack r body h => answerMutate_eq h, fun items rest documents => ?_⟩
  simp only [answerBody_batch, applyItems_append, succeeds_outcomeOf_iff]
  rcases ha : applyItems items documents with ⟨documents₁, halt | entries⟩
  case error => exact ⟨fun _ => rfl, by simp⟩
  case ok =>
    refine ⟨fun hn => absurd ⟨entries, rfl⟩ hn, fun _ => ?_⟩
    refine ⟨entries, areEntriesOf_of_applyItems ha, rfl, rfl, ?_⟩
    simp only [andThen]
    rcases hr : applyItems rest documents₁ with ⟨documents₂, halt | entries'⟩
    case error => exact ⟨fun _ => rfl, by simp⟩
    case ok =>
      refine ⟨fun hn => absurd ⟨entries', rfl⟩ hn, fun _ => ?_⟩
      exact ⟨entries', areEntriesOf_of_applyItems hr, rfl, rfl⟩

def filing (id : String) : Json :=
  .object [("create", .object [("_id", .text id), ("_type", .text "t")])]

def misfiling : Request where
  method  := "POST"
  url     := ⟨"https".toList, [], ['h'], none, "/v1/mutate/d".toList, [], []⟩
  headers := []
  body    := some (.text (batch [.int 5]).compact)

theorem answerBody_append_filing :
    let filed := (answerBody (batch [filing "a"]) []).1
    bodyJson default misfiling "\x7b\x7d" = .ok (batch [.int 5]) ∧
    answerMutate default misfiling filed = answerBody (batch [.int 5]) filed ∧
    Succeeds (answerBody (batch [filing "a"]) []).2 ∧
    Succeeds (answerBody (batch [filing "b"]) filed).2 ∧
    ¬Succeeds (answerBody (batch [filing "a", .int 5]) filed).2 ∧
    (∃ entries entries', List.Forall₂ IsEntryOf [filing "a"] entries ∧
      List.Forall₂ IsEntryOf [filing "b"] entries' ∧
      (answerBody (batch [filing "a", filing "b"]) []).2 =
        .ok (mutatedAnswer (entries ++ entries'))) ∧
    (answerBody (batch [filing "a", filing "a", .int 5]) []).2 =
      (answerBody (batch [filing "a", .int 5]) filed).2 ∧
    answerBody (batch [filing "a", .int 5, filing "b"]) filed =
      answerBody (batch [filing "a", .int 5]) filed := by
  have hf : Succeeds (answerBody (batch [filing "a"]) []).2 := ⟨_, rfl, rfl⟩
  have hs : Succeeds (answerBody (batch [filing "b"])
      (answerBody (batch [filing "a"]) []).1).2 := ⟨_, rfl, rfl⟩
  have hn : ¬Succeeds (answerBody (batch [filing "a", .int 5])
      (answerBody (batch [filing "a"]) []).1).2 := by
    rintro ⟨_, ha, hc⟩
    cases ha
    cases hc
  have hm : bodyJson default misfiling "\x7b\x7d" = .ok (batch [.int 5]) :=
    bodyJson_eq _ rfl <| Json.read_compact rfl (by decide) rfl
  have ⟨hb, ha⟩ := answerBody_append
  have ⟨entries, he, _, _, _, hr⟩ := (ha [filing "a"] [filing "b"] []).right hf
  have ⟨entries', he', _, hw⟩ := hr hs
  have ⟨_, _, _, _, hr, _⟩ := (ha [filing "a"] [filing "a", .int 5] []).right hf
  exact ⟨hm, hb default misfiling _ hm _, hf, hs, hn, ⟨entries, entries', he, he', hw⟩, hr hn,
    (ha [filing "a", .int 5] [filing "b"] _).left hn⟩

end DocStore.Service
