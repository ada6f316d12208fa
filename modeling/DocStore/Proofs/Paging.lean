import DocStore.Proofs.Scanning

namespace DocStore

namespace JsonText

-- No number is below zero, so nothing comes between a list and that list with a zero after it.
theorem not_lt_append_zero {s t : List Nat} : ¬s < t ++ [0] ↔ t < s := by
  induction t generalizing s
  case nil => cases s <;> simp [List.cons_lt_cons_iff, -not_lt]
  case cons b t hi =>
    cases s
    case nil => simp
    case cons a s =>
      have hs := @hi s
      simp only [List.cons_append, List.cons_lt_cons_iff]
      grind

-- The texts above a text are those from the one on that has U+0000 after it.
theorem plain_append_zero_le {key : String} {t : JsonText} :
    plain (key ++ "\x00") ≤ t ↔ ¬t ≤ plain key := by
  have hc : (plain (key ++ "\x00")).codes = (plain key).codes ++ [0] := by
    simp [codes_plain]
  change ¬t.codes < (plain (key ++ "\x00")).codes ↔ ¬¬(plain key).codes < t.codes
  rw [hc, not_not]
  exact not_lt_append_zero

end JsonText

namespace Selection

variable {ds : List Document} {d : Document} {n : Nat}

-- Where ids are distinct, no document in order is below one before it.
theorem pairwise_sortById_of_nodup (h : (ds.map idOf).Nodup) :
    (sortById ds).Pairwise fun a b => ¬idOf b ≤ idOf a := by
  have hn : ((sortById ds).map idOf).Nodup := ((sortById_perm ds).map idOf).nodup_iff.mpr h
  have hp := (pairwise_sortById ds).and (List.pairwise_map.mp hn)
  exact hp.imp fun ⟨hle, hne⟩ hge => hne <| JsonText.le_antisymm hle hge

-- So the documents above one of them are those that come after it.
theorem filter_of_pairwise {before after : List Document}
    (h : (before ++ d :: after).Pairwise fun a b => ¬idOf b ≤ idOf a) :
    (before ++ d :: after).filter (¬idOf · ≤ idOf d) = after := by
  have ⟨_, ha, hb⟩ := List.pairwise_append.mp h
  have hb : before.filter (¬idOf · ≤ idOf d) = [] := by
    rw [List.filter_eq_nil_iff]
    intro e he
    simpa using (JsonText.le_total _ _).resolve_right <| hb e he d List.mem_cons_self
  have ha : after.filter (¬idOf · ≤ idOf d) = after := by
    rw [List.filter_eq_self]
    simpa using (List.pairwise_cons.mp ha).left
  rw [List.filter_append, hb, List.nil_append, List.filter_cons_of_neg (by simp [JsonText.le_refl]),
    ha]

theorem sortById_above (h : (ds.map idOf).Nodup) (hd : (sortById ds)[n]? = some d) :
    sortById (ds.filter (¬idOf · ≤ idOf d)) = (sortById ds).drop (n + 1) := by
  have ⟨hl, hd⟩ := List.getElem?_eq_some_iff.mp hd
  have hs : sortById ds = (sortById ds).take n ++ d :: (sortById ds).drop (n + 1) := by
    rw [← hd, ← List.drop_eq_getElem_cons hl, List.take_append_drop]
  have hp := pairwise_sortById_of_nodup h
  have hf : (sortById ds).filter (¬idOf · ≤ idOf d) = (sortById ds).drop (n + 1) := by
    rw [hs] at hp ⊢
    rw [filter_of_pairwise hp, ← hs]
  refine eq_of_perm ?perm ?nodup (pairwise_sortById _) ?sorted
  case perm =>
    rw [← hf]
    exact (sortById_perm _).trans <| ((sortById_perm ds).filter _).symm
  case nodup =>
    refine ((sortById_perm _).map idOf).nodup_iff.mpr ?_
    exact h.sublist <| List.filter_sublist.map _
  case sorted => exact (pairwise_sortById ds).sublist (List.drop_sublist ..)

variable {documents : Documents} {type start key : String}

theorem matching_append_zero (h : JsonText.plain start ≤ .plain key) :
    matching type (key ++ "\x00") documents =
      (matching type start documents).filter (¬idOf · ≤ .plain key) := by
  rw [matching, matching, List.filter_filter]
  refine List.filter_congr fun d _ => ?_
  have hi : JsonText.plain (key ++ "\x00") ≤ idOf d ↔
      ¬idOf d ≤ .plain key ∧ .plain start ≤ idOf d := by
    rw [JsonText.plain_append_zero_le, iff_self_and]
    exact fun hk => JsonText.le_trans h <| (JsonText.le_total _ _).resolve_left hk
  simp only [hi, Bool.decide_and]
  exact Bool.and_left_comm ..

theorem window_of_length_lt (h : (sortById (matching type start documents)).length < n) (m : Nat) :
    window type start (n + m) documents = window type start n documents := by
  rw [window, window, List.take_of_length_le (by omega), List.take_of_length_le (by omega)]

-- A window is made of two, the second of which starts right after the last id of the first.
theorem window_add (hi : (documents.map fun e => idOf e.2).Nodup)
    (hd : (sortById (matching type start documents))[n]? = some d) (hk : idOf d = .plain key)
    (m : Nat) :
    window type start (n + 1 + m) documents =
      window type start (n + 1) documents ++ window type (key ++ "\x00") m documents := by
  have hm : d ∈ matching type start documents :=
    (sortById_perm _).mem_iff.mp <| List.mem_of_getElem? hd
  have hs : JsonText.plain start ≤ .plain key := by
    have hs := (List.mem_filter.mp hm).right
    simp only [Bool.and_eq_true, decide_eq_true_eq] at hs
    exact hk ▸ hs.right
  have hn : ((matching type start documents).map idOf).Nodup := by
    have hi : ((documents.map Prod.snd).map idOf).Nodup := by simpa [Function.comp_def] using hi
    exact hi.sublist <| List.filter_sublist.map _
  simp only [window]
  rw [matching_append_zero hs, ← hk, sortById_above hn hd, List.take_add]

end Selection

namespace Client

open Selection

variable {c : Client} {s : Service} {names : List String}

theorem scan_into (c : Client) (s : Service) (type start : String) (count : Int)
    (fields : Option (List String)) (into : List Record) :
    (c.scan s type start count fields into).1 = (c.scan s type start count fields []).1 ∧
    (c.scan s type start count fields into).2 =
      into ++ (c.scan s type start count fields []).2 := by
  rw [scan_eq, scan_eq]
  split
  case h_1 => simp
  case h_2 =>
    unfold collect
    split
    case h_1 => simp
    case h_2 answer _ => cases answer <;> cases fields <;> simp [deliverRecords]

def page (c : Client) (s : Service) (type : String) (names : List String) (start : String)
    (count : Nat) : Except Failure Status × List Record :=
  let (o, records) := c.scan s type start count (some names) []
  (o.result, records)

theorem page_scanned (hc : c.Ready s.token) (hq : s.queue = [])
    (hd : ∀ e ∈ s.documents, e.2.IsNamed ∧ e.2.toJson.isFloatFree = true) (hf : ¬HasBrace names)
    (type start : String) {n : Nat} (hn : n < Nat.pow 10 Text.digitLimit) :
    Scanned s.stack names ((window type start n s.documents).map (returned names)) []
      (c.page s type names start n) :=
  scan_of_range hc hq hd type start hn hf []

section

variable (hc : c.Ready s.token) (hq : s.queue = [])
  (hd : ∀ e ∈ s.documents, e.2.IsNamed ∧ e.2.toJson.isFloatFree = true) (hf : ¬HasBrace names)
  {type start key : String} {n m : Nat} (hn : n + m < Nat.pow 10 Text.digitLimit)
include hc hq hd hf hn

theorem page_of_length_lt (h : (sortById (matching type start s.documents)).length < n) :
    c.page s type names start (n + m) = c.page s type names start n := by
  have hl := page_scanned hc hq hd hf type start hn
  rw [window_of_length_lt h] at hl
  exact hl.unique <|
    page_scanned hc hq hd hf type start (Nat.lt_of_le_of_lt (Nat.le_add_right n m) hn)

theorem page_add {d : Document} (hp : 0 < n) (hi : (s.documents.map fun e => idOf e.2).Nodup)
    (h : (sortById (matching type start s.documents))[n - 1]? = some d)
    (hk : idOf d = .plain key) :
    ((c.page s type names start (n + m)).1 = .ok .ok ↔
      (c.page s type names start n).1 = .ok .ok ∧
      (c.page s type names (key ++ "\x00") m).1 = .ok .ok) ∧
    ((c.page s type names start (n + m)).1 = .ok .ok →
      (c.page s type names start (n + m)).2 =
        (c.page s type names start n).2 ++ (c.page s type names (key ++ "\x00") m).2) := by
  have hl := page_scanned hc hq hd hf type start hn
  have hs := page_scanned hc hq hd hf type start (Nat.lt_of_le_of_lt (Nat.le_add_right n m) hn)
  have hs' := page_scanned hc hq hd hf type (key ++ "\x00")
    (Nat.lt_of_le_of_lt (Nat.le_add_left m n) hn)
  have hw := window_add hi h hk m
  rw [Nat.sub_add_cancel hp] at hw
  rw [hw, List.map_append] at hl
  have hiff : (c.page s type names start (n + m)).1 = .ok .ok ↔
      (c.page s type names start n).1 = .ok .ok ∧
      (c.page s type names (key ++ "\x00") m).1 = .ok .ok := by
    rw [hl.ok_iff, hs.ok_iff, hs'.ok_iff, List.forall_mem_append, List.forall_mem_append]
    exact and_and_and_comm
  refine ⟨hiff, fun hr => ?_⟩
  have ⟨hr₁, hr₂⟩ := hiff.mp hr
  rw [hl.records_of_ok hr, hs.records_of_ok hr₁, hs'.records_of_ok hr₂, List.map_append]
  rfl

end

-- A scan of some documents and some more is two scans, if there are as many as the first asks for:
-- the second starts right after the last id that the first has come to. If there are fewer, asking
-- for more changes nothing. With enough of the stack left, and no number that is too long to be
-- written, all scans succeed. Else some may fail, and append nothing then; a long scan fails if and
-- only if one of its two parts does.
theorem scan_pages {documents : Documents}
    (hd : ∀ e ∈ documents, e.2.IsNamed ∧ e.2.toJson.isFloatFree = true)
    (hi : (documents.map fun e => idOf e.2).Nodup) :
    ∃ enough, ∀ (c : Client) (s : Service), s.documents = documents → c.IsPlain s.token →
      s.queue = [] → ∀ (type start : String) (names : List String),
      (∀ name ∈ names, '\x7d' ∉ name.toList) →
      (∀ start (n : Nat) into,
        (c.scan s type start n (some names) into).1.result = (c.page s type names start n).1 ∧
        (c.scan s type start n (some names) into).2 = into ++ (c.page s type names start n).2) ∧
      (∀ start, ∀ n < Nat.pow 10 Text.digitLimit,
        (c.page s type names start n).1 = .ok .ok ∨
        (∃ e ∈ documents, e.2.toJson.tooLong? ≠ none) ∧
          c.page s type names start n = (.error (.service (.unwritable .overlong)), []) ∨
        s.stack.frames < enough ∧
          c.page s type names start n = (.error (.service .rowsTooDeep), [])) ∧
      ∃ ordered, IsOrdered (matching type start s.documents) ordered ∧
        ∀ n m, 0 < n → n + m < Nat.pow 10 Text.digitLimit →
          (ordered.length < n →
            c.page s type names start (n + m) = c.page s type names start n) ∧
          ∀ d key, ordered[n - 1]? = some d → idOf d = .plain key →
            ((c.page s type names start (n + m)).1 = .ok .ok ↔
              (c.page s type names start n).1 = .ok .ok ∧
              (c.page s type names (key ++ "\x00") m).1 = .ok .ok) ∧
            ((c.page s type names start (n + m)).1 = .ok .ok →
              (c.page s type names start (n + m)).2 =
                (c.page s type names start n).2 ++ (c.page s type names (key ++ "\x00") m).2) := by
  obtain ⟨enough, he⟩ := Document.exists_isShallow documents
  refine ⟨enough, ?_⟩
  rintro c s rfl hc hq type start names hf
  have hf : ¬HasBrace names := fun ⟨name, hm, hb⟩ => hf name hm hb
  have hr := ready_of_isPlain hc
  refine ⟨fun start n into => ?into, fun start n hn => ?ends,
    sortById (matching type start s.documents), isOrdered_sortById _, ?add⟩
  case into =>
    have ⟨ho, hl⟩ := scan_into c s type start n (some names) into
    exact ⟨congrArg Outcome.result ho, hl⟩
  case ends =>
    have hp := page_scanned hr hq hd hf type start hn
    generalize c.page s type names start n = report at hp
    cases hp
    case delivered => exact .inl rfl
    case overlong ht =>
      refine .inr <| .inl ⟨?_, rfl⟩
      by_contra hl
      push Not at hl
      refine ht <| List.forall_mem_map.mpr fun d hm => tooLong?_returned ?_
      have ⟨e, he, hv⟩ := mem_of_mem_window hm
      exact hv ▸ hl e he
    case tooDeep hs =>
      refine .inr <| .inr ⟨?_, rfl⟩
      by_contra hl
      exact hs <| List.forall_mem_map.mpr <| isShallow_window <| he s.stack (Nat.le_of_not_lt hl)
  case add =>
    exact fun n m hn hm => ⟨page_of_length_lt hr hq hd hf hm,
      fun d key => page_add hr hq hd hf hm hn hi⟩

def ledger : Service where
  token := some "secret"
  documents :=
    [(.text "1", [(.text "_id", .text "b\x00"), (.text "_type", .text "t"), (.text "x", .int 3)]),
      (.text "2", [(.text "_id", .text "b"), (.text "_type", .text "t"), (.text "x", .null)]),
      (.text "3", [(.text "_id", .text "a"), (.text "_type", .text "t"),
        (.text "x", .array [.bool true])]),
      (.text "4", [(.text "_id", .text "aa"), (.text "_type", .text "u")])]

theorem scan_pages_ledger :
    librarian.start.1.IsPlain ledger.token ∧ ledger.queue = [] ∧
    (∀ e ∈ ledger.documents, e.2.IsNamed ∧ e.2.toJson.isFloatFree = true) ∧
    (ledger.documents.map fun e => idOf e.2).Nodup ∧
    (∀ name ∈ ["x", "x,_id", ""], '\x7d' ∉ name.toList) ∧
    ∃ enough, ∀ stack : Stack, enough ≤ stack.frames →
      let page := librarian.start.1.page { ledger with stack } "t" ["x", "x,_id", ""]
      (page "a" 3).1 = .ok .ok ∧ (page "a" 3).2 = (page "a" 2).2 ++ (page "b\x00" 1).2 := by
  have hd : ∀ e ∈ ledger.documents, e.2.IsNamed ∧ e.2.toJson.isFloatFree = true := by
    rw [ledger]
    simp only [List.forall_mem_cons, List.not_mem_nil, false_implies, implies_true, and_true]
    refine ⟨⟨?_, ?_⟩, ⟨?_, ?_⟩, ⟨?_, ?_⟩, ?_, ?_⟩
    all_goals first | exact ⟨_, _, rfl, rfl⟩ | decide
  have ht : ∀ e ∈ ledger.documents, e.2.toJson.tooLong? = none := by decide
  have hi : (ledger.documents.map fun e => idOf e.2).Nodup := by decide
  have hf : ∀ name ∈ ["x", "x,_id", ""], '\x7d' ∉ name.toList := by decide
  have hn : 3 < Nat.pow 10 Text.digitLimit := by decide +kernel
  obtain ⟨enough, hp⟩ := scan_pages hd hi
  refine ⟨isPlain_librarian, rfl, hd, hi, hf, enough, fun stack hs => ?_⟩
  obtain ⟨_, he, ordered, ho, hp⟩ := hp librarian.start.1 { ledger with stack } rfl
    isPlain_librarian rfl "t" "a" ["x", "x,_id", ""] hf
  have ho : ordered = ((ledger.documents.map Prod.snd).take 3).reverse := by
    have hm : matching "t" "a" ledger.documents = (ledger.documents.map Prod.snd).take 3 := rfl
    have hs := hm ▸ ho.perm
    refine eq_of_perm (hs.trans (List.reverse_perm _).symm) ?_ ho.sorted (by decide)
    exact (hs.map idOf).nodup_iff.mpr (by decide)
  subst ho
  have hr := (he "a" 3 hn).resolve_right fun h =>
    h.elim (fun ⟨⟨e, hm, hl⟩, _⟩ => hl (ht e hm)) fun h => Nat.not_lt.mpr hs h.left
  have ⟨_, ha⟩ := (hp 2 1 (by decide) hn).right _ "b" rfl rfl
  exact ⟨hr, ha hr⟩

def annex : Service where
  token := some "secret"
  documents :=
    [(.text "1", [(.text "_id", .text "a"), (.text "_type", .text "t"), (.text "x", .int 1)]),
      (.text "2", [(.text "_id", .text "b"), (.text "_type", .text "t"),
        (.text "x", Json.nested 600)])]

theorem page_annex :
    librarian.start.1.IsPlain annex.token ∧ annex.queue = [] ∧
    (∀ e ∈ annex.documents, e.2.IsNamed ∧ e.2.toJson.isFloatFree = true) ∧
    (annex.documents.map fun e => idOf e.2).Nodup ∧ 1 + 1 < Nat.pow 10 Text.digitLimit ∧
    (∀ name ∈ ["x"], '\x7d' ∉ name.toList) ∧
    (sortById (matching "t" "" annex.documents)).map idOf = ["a", "b"] ∧
    (librarian.start.1.page annex "t" ["x"] "" (1 + 1)).2 ≠
      (librarian.start.1.page annex "t" ["x"] "" 1).2 ++
        (librarian.start.1.page annex "t" ["x"] "a\x00" 1).2 := by
  have hd : ∀ e ∈ annex.documents, e.2.IsNamed ∧ e.2.toJson.isFloatFree = true := by
    have hx : (Json.nested 600).isFloatFree = true :=
      (Json.rereads_of_isCarried <| Json.isCarried_of_isExact <| Json.isExact_nested 600).left
    simp only [annex, List.forall_mem_cons, List.not_mem_nil, false_implies, implies_true, and_true,
      Document.isFloatFree_toJson_iff]
    exact ⟨⟨⟨_, _, rfl, rfl⟩, rfl, rfl, rfl⟩, ⟨_, _, rfl, rfl⟩, rfl, rfl, hx⟩
  have hn : 1 + 1 < Nat.pow 10 Text.digitLimit := by decide +kernel
  have hs : sortById (matching "t" "" annex.documents) = annex.documents.map Prod.snd := by
    have hm : matching "t" "" annex.documents = annex.documents.map Prod.snd := rfl
    rw [hm]
    exact List.mergeSort_of_pairwise (by decide)
  have hr := ready_of_isPlain isPlain_librarian
  have hb : ¬HasBrace ["x"] := by decide
  have hl := page_scanned (s := annex) hr rfl hd hb "t" "" hn
  have hf := page_scanned (s := annex) hr rfl hd hb "t" "" (Nat.lt_of_succ_lt hn)
  rw [window, hs] at hl hf
  refine ⟨isPlain_librarian, rfl, hd, by decide, hn, by decide, by rw [hs]; rfl, fun h => ?_⟩
  have hf := hf.records_of_ok <| hf.ok_iff.mpr ⟨by decide +kernel, by decide +kernel⟩
  generalize librarian.start.1.page annex "t" ["x"] "" (1 + 1) = report at hl h
  cases hl
  case delivered hm _ =>
    exact not_isShallow_of_nested (.head _) (by decide) (hm _ <| .tail _ <| .head _)
  case overlong hm _ =>
    exact not_isShallow_of_nested (.head _) (by decide) (hm _ <| .tail _ <| .head _)
  case tooDeep =>
    rw [hf] at h
    exact absurd h (List.cons_ne_nil _ _).symm

end Client

end DocStore
