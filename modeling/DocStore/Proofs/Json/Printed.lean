import DocStore.Proofs.Json.Written

namespace DocStore

namespace Json

-- The characters of ASCII that are not controls.
def isPrintable (c : Char) : Bool :=
  ' ' ≤ c && c ≤ '~'

theorem isPrintable_of_mem (s : String) (hs : s.toList.all isPrintable = true) {c : Char}
    (h : c ∈ s.toList) : isPrintable c = true :=
  List.all_eq_true.mp hs c h

theorem isPrintable_of_isDigit {c : Char} (h : isDigit c = true) : isPrintable c = true := by
  simp only [isDigit, Percent.isAsciiDigit, Bool.and_eq_true, decide_eq_true_eq] at h
  simp only [isPrintable, Bool.and_eq_true, decide_eq_true_eq]
  exact ⟨Char.le_trans (by decide) h.left, Char.le_trans h.right (by decide)⟩

theorem isPrintable_of_mem_repr {n : Int} {c : Char} (h : c ∈ n.repr.toList) :
    isPrintable c = true := by
  have hd : ∀ n, c ∈ Nat.toDigits 10 n → isPrintable c = true :=
    fun _ hc => isPrintable_of_isDigit <| isDigit_of_mem_toDigits hc
  cases n
  case ofNat n => exact hd n <| by simpa [Int.repr] using h
  case negSucc n =>
    have h : c = '-' ∨ c ∈ Nat.toDigits 10 (n + 1) := by simpa [Int.repr] using h
    rcases h with rfl | h
    case inl => rfl
    case inr => exact hd _ h

theorem isPrintable_of_mem_fixed {width n : Nat} {c : Char} (h : c ∈ Text.Hex.fixed width n) :
    isPrintable c = true := by
  induction width generalizing n
  case zero => cases h
  case succ width hi =>
    rw [Text.Hex.fixed, List.mem_append, List.mem_singleton] at h
    rcases h with h | rfl
    case inl => exact hi h
    case inr =>
      suffices ∀ m : Fin 16, isPrintable (Text.Hex.lowerDigit m) = true from
        this ⟨n % 16, Nat.mod_lt n (by decide)⟩
      decide

theorem isPrintable_of_mem_escapeUnit {unit : Nat} {c : Char} (h : c ∈ escapeUnit unit) :
    isPrintable c = true := by
  rcases List.mem_cons.mp h with rfl | h
  case inl => rfl
  case inr =>
    rcases List.mem_cons.mp h with rfl | h
    case inl => rfl
    case inr => exact isPrintable_of_mem_fixed h

theorem isPrintable_of_mem_escapeChar {c d : Char} (h : d ∈ escapeChar c) :
    isPrintable d = true := by
  unfold escapeChar at h
  split at h
  case isTrue hc => rcases hc with rfl | rfl <;> exact List.all_eq_true.mp (by decide) d h
  case isFalse =>
    repeat' split at h
    iterate 5 next => exact List.all_eq_true.mp (by decide) d h
    case _ hc => simpa [isPrintable, List.mem_singleton.mp h] using hc
    case _ =>
      unfold escapeCodePoint at h
      dsimp only at h
      split at h
      case isTrue => exact isPrintable_of_mem_escapeUnit h
      case isFalse =>
        rcases List.mem_append.mp h with h | h
        all_goals exact isPrintable_of_mem_escapeUnit h

theorem isPrintable_of_mem_printText {t : JsonText} {c : Char} (h : c ∈ printText t) :
    isPrintable c = true := by
  simp only [printText, List.cons_append, List.mem_cons, List.mem_append, List.not_mem_nil,
    or_false] at h
  rcases h with rfl | h | rfl
  case inr.inl =>
    obtain ⟨point, _, hc⟩ := List.mem_flatMap.mp h
    cases point
    case char => exact isPrintable_of_mem_escapeChar hc
    case surrogate => exact isPrintable_of_mem_escapeUnit hc
  all_goals rfl

structure Separators.ArePrintable (sep : Separators) : Prop where
  item   : ∀ c ∈ sep.item, isPrintable c = true
  member : ∀ c ∈ sep.member, isPrintable c = true

theorem arePrintable_spaced : Separators.spaced.ArePrintable where
  item   := List.all_eq_true.mp (by decide)
  member := List.all_eq_true.mp (by decide)

theorem arePrintable_compact : Separators.compact.ArePrintable where
  item   := List.all_eq_true.mp (by decide)
  member := List.all_eq_true.mp (by decide)

mutual

theorem isPrintable_of_mem_print {sep : Separators} (hs : sep.ArePrintable) {c : Char} :
    ∀ v : Json, v.isFloatFree = true → c ∈ v.print sep → isPrintable c = true
  | .null, _, h => isPrintable_of_mem "null" rfl h
  | .bool true, _, h => isPrintable_of_mem "true" rfl h
  | .bool false, _, h => isPrintable_of_mem "false" rfl h
  | .int _, _, h => isPrintable_of_mem_repr h
  | .float _, he, _ => by simp [isFloatFree] at he
  | .text _, _, h => isPrintable_of_mem_printText h
  | .array [], _, h => isPrintable_of_mem "[]" rfl h
  | .array (item :: items), he, h => by
    simp only [isFloatFree, areFloatFree, Bool.and_eq_true] at he
    simp only [print, List.cons_append, List.mem_cons, List.mem_append] at h
    rcases h with rfl | h | h
    case inl => rfl
    case inr.inl => exact isPrintable_of_mem_print hs item he.left h
    case inr.inr => exact isPrintable_of_mem_printItems hs items he.right h
  | .object [], _, h => isPrintable_of_mem "\x7b\x7d" rfl h
  | .object ((name, value) :: members), he, h => by
    simp only [isFloatFree, areFloatFreeMembers, Bool.and_eq_true] at he
    simp only [print, List.cons_append, List.mem_cons, List.mem_append] at h
    rcases h with rfl | ((h | h) | h) | h
    case inl => rfl
    case inr.inl.inl.inl => exact isPrintable_of_mem_printText h
    case inr.inl.inl.inr => exact hs.member c h
    case inr.inl.inr => exact isPrintable_of_mem_print hs value he.left h
    case inr.inr => exact isPrintable_of_mem_printMembers hs members he.right h

theorem isPrintable_of_mem_printItems {sep : Separators} (hs : sep.ArePrintable) {c : Char} :
    ∀ items : List Json, areFloatFree items = true → c ∈ printItems sep items →
      isPrintable c = true
  | [], _, h => isPrintable_of_mem "]" rfl h
  | item :: items, he, h => by
    simp only [areFloatFree, Bool.and_eq_true] at he
    simp only [printItems, List.mem_append] at h
    rcases h with (h | h) | h
    case inl.inl => exact hs.item c h
    case inl.inr => exact isPrintable_of_mem_print hs item he.left h
    case inr => exact isPrintable_of_mem_printItems hs items he.right h

theorem isPrintable_of_mem_printMembers {sep : Separators} (hs : sep.ArePrintable) {c : Char} :
    ∀ members : List (JsonText × Json), areFloatFreeMembers members = true →
      c ∈ printMembers sep members → isPrintable c = true
  | [], _, h => isPrintable_of_mem "\x7d" rfl h
  | (name, value) :: members, he, h => by
    simp only [areFloatFreeMembers, Bool.and_eq_true] at he
    simp only [printMembers, List.mem_append] at h
    rcases h with (((h | h) | h) | h) | h
    case inl.inl.inl.inl => exact hs.item c h
    case inl.inl.inl.inr => exact isPrintable_of_mem_printText h
    case inl.inl.inr => exact hs.member c h
    case inl.inr => exact isPrintable_of_mem_print hs value he.left h
    case inr => exact isPrintable_of_mem_printMembers hs members he.right h

end

theorem membersDepth_ofList_le {members : List (JsonText × Json)} {n : Nat}
    (h : membersDepth members ≤ n) : membersDepth (Entries.ofList members) ≤ n := by
  rw [membersDepth_le_iff] at h ⊢
  intro member hm
  rcases Entries.mem_update hm with hm | hm
  case inl => cases hm
  case inr => exact h member hm

theorem depth_of_readNumber {negative : Bool} {s rest : List Char} {v : Json}
    (h : readNumber negative s = .ok (v, rest)) : v.depth = 0 := by
  simp only [readNumber] at h
  repeat' split at h
  all_goals cases h
  all_goals rfl

theorem depth_of_readWord? {s rest : List Char} {v : Json} (h : readWord? s = some (v, rest)) :
    v.depth = 0 := by
  have ⟨⟨_, _⟩, hm, hw⟩ := List.exists_of_findSome?_eq_some h
  obtain ⟨_, _, he⟩ := Option.map_eq_some_iff.mp hw
  cases he
  have hz : ∀ word ∈ words, word.2.depth = 0 := by simp [words, depth]
  exact hz _ hm

theorem depth_of_readScalar {s rest : List Char} {v : Json} (h : readScalar s = .ok (v, rest)) :
    v.depth = 0 := by
  unfold readScalar at h
  split at h
  case h_1 hw =>
    cases h
    exact depth_of_readWord? hw
  case h_2 =>
    repeat' split at h
    all_goals first | exact depth_of_readNumber h | cases h

variable {α β : Type}

theorem map_eq_ok {ε : Type} {f : α → β} {x : Except ε α} {b : β} (h : x.map f = .ok b) :
    ∃ a, x = .ok a ∧ f a = b := by
  cases x
  case error => cases h
  case ok a => exact ⟨a, rfl, Except.ok.inj h⟩

theorem readMembers_eq_ok {fuel room : Nat} {s rest : List Char}
    {members : List (JsonText × Json)}
    (h : readMembers (fuel + 1) room s = .ok (members, rest)) :
    ∃ name value inside after, readValue fuel room inside = .ok (value, after) ∧
      (members = [(name, value)] ∨ ∃ next others,
        readMembers fuel room next = .ok (others, rest) ∧ members = (name, value) :: others) := by
  rw [readMembers.eq_def] at h
  dsimp only at h
  split at h
  case h_2 => cases h
  case h_1 =>
    split at h
    case h_1 => cases h
    case h_2 name after _ =>
      split at h
      case h_2 => cases h
      case h_1 =>
        split at h
        case h_1 => cases h
        case h_2 value after hv =>
          refine ⟨name, value, _, after, hv, ?_⟩
          split at h
          case h_1 =>
            cases h
            exact .inl rfl
          case h_2 =>
            obtain ⟨⟨others, _⟩, hr, he⟩ := map_eq_ok h
            cases he
            exact .inr ⟨_, others, hr, rfl⟩
          case h_3 => cases h

-- Every container takes one place of the room for what is in it.
mutual

theorem depth_of_readValue {fuel room : Nat} {s rest : List Char} {v : Json}
    (h : readValue fuel room s = .ok (v, rest)) : v.depth ≤ room := by
  cases fuel
  case zero => simp [readValue] at h
  case succ fuel =>
    rw [readValue.eq_def] at h
    dsimp only at h
    split at h
    case h_1 =>
      obtain ⟨_, _, he⟩ := map_eq_ok h
      cases he
      exact Nat.zero_le room
    case h_2 =>
      cases room
      case zero => cases h
      case succ room =>
        dsimp only at h
        split at h
        case h_1 =>
          cases h
          simp [depth, itemsDepth]
        case h_2 =>
          obtain ⟨⟨items, _⟩, hr, he⟩ := map_eq_ok h
          cases he
          simpa [depth] using depth_of_readItems hr
    case h_3 =>
      cases room
      case zero => cases h
      case succ room =>
        dsimp only at h
        split at h
        case h_1 =>
          cases h
          simp [depth, membersDepth]
        case h_2 =>
          obtain ⟨⟨members, _⟩, hr, he⟩ := map_eq_ok h
          cases he
          simpa [depth] using membersDepth_ofList_le <| depth_of_readMembers hr
    case h_4 => simp [depth_of_readScalar h]

theorem depth_of_readItems {fuel room : Nat} {s rest : List Char} {items : List Json}
    (h : readItems fuel room s = .ok (items, rest)) : itemsDepth items ≤ room := by
  cases fuel
  case zero => simp [readItems] at h
  case succ fuel =>
    rw [readItems] at h
    split at h
    case h_1 => cases h
    case h_2 item after hv =>
      have hv := depth_of_readValue hv
      split at h
      case h_1 =>
        cases h
        simpa [itemsDepth] using hv
      case h_2 =>
        obtain ⟨⟨items, _⟩, hr, he⟩ := map_eq_ok h
        cases he
        exact Nat.max_le.mpr ⟨hv, depth_of_readItems hr⟩
      case h_3 => cases h

theorem depth_of_readMembers {fuel room : Nat} {s rest : List Char}
    {members : List (JsonText × Json)} (h : readMembers fuel room s = .ok (members, rest)) :
    membersDepth members ≤ room := by
  cases fuel
  case zero => simp [readMembers] at h
  case succ fuel =>
    obtain ⟨name, value, inside, after, hv, hr⟩ := readMembers_eq_ok h
    have hv := depth_of_readValue hv
    rcases hr with rfl | ⟨next, members, hr, rfl⟩
    case inl => simpa [membersDepth] using hv
    case inr => exact Nat.max_le.mpr ⟨hv, depth_of_readMembers hr⟩

end

theorem depth_of_read {stack : Stack} {s : String} {v : Json} (h : read stack s = .ok v) :
    v.depth ≤ stack.room := by
  unfold read at h
  cases hr : readAll stack.room s.toList <;> rw [hr] at h <;> cases h
  unfold readAll at hr
  split at hr
  case isTrue => cases hr
  case isFalse =>
    split at hr
    case h_1 => cases hr
    case h_2 hv =>
      split at hr <;> cases hr
      exact depth_of_readValue hv

-- Whether a reading ends, if it fails, for another reason than that it goes too deep.
def IsShallow {α : Type} (reading : Reading α) : Prop :=
  ∀ container, reading ≠ .error (.tooDeep container)

theorem IsShallow.map {α β : Type} {reading : Reading α} (h : IsShallow reading)
    (f : α × List Char → β × List Char) : IsShallow (reading.map f) := by
  intro container he
  cases reading
  case error stop => exact h container <| by simpa [Except.map] using he
  case ok => cases he

theorem isShallow_readPoint (opening s : List Char) : IsShallow (readPoint opening s) := by
  intro container he
  unfold readPoint readUnicode at he
  repeat' split at he
  all_goals cases he

theorem isShallow_readPoints (opening : List Char) (fuel : Nat) (s : List Char) :
    IsShallow (readPoints opening fuel s) := by
  induction fuel generalizing s
  case zero => exact nofun
  case succ fuel hi =>
    unfold readPoints
    split
    case h_1 => exact nofun
    case h_2 =>
      split
      case h_1 stop hp =>
        intro container he
        cases he
        exact isShallow_readPoint opening s container hp
      case h_2 => exact (hi _).map _

theorem isShallow_readText (s : List Char) : IsShallow (readText s) :=
  IsShallow.map (isShallow_readPoints _ _ _) _

theorem isShallow_readNumber (negative : Bool) (s : List Char) :
    IsShallow (readNumber negative s) := by
  intro container he
  simp only [readNumber] at he
  repeat' split at he
  all_goals cases he

theorem isShallow_readScalar (s : List Char) : IsShallow (readScalar s) := by
  unfold readScalar
  repeat' split
  all_goals first | exact isShallow_readNumber _ _ | exact nofun

-- Reading takes at least one unit of fuel for each container that it opens.
mutual

theorem isShallow_readValue {fuel room : Nat} (h : fuel ≤ room) (s : List Char) :
    IsShallow (readValue fuel room s) := by
  cases fuel
  case zero => exact nofun
  case succ fuel =>
    obtain ⟨room, rfl⟩ := Nat.exists_eq_add_of_le' (Nat.le_trans (Nat.le_add_left 1 fuel) h)
    have h := Nat.le_of_succ_le_succ h
    rw [readValue.eq_def]
    dsimp only
    split
    case h_1 => exact (isShallow_readText _).map _
    case h_2 =>
      split
      case h_1 => exact nofun
      case h_2 => exact (isShallow_readItems h _).map _
    case h_3 =>
      split
      case h_1 => exact nofun
      case h_2 => exact (isShallow_readMembers h _).map _
    case h_4 => exact isShallow_readScalar _

theorem isShallow_readItems {fuel room : Nat} (h : fuel ≤ room) (s : List Char) :
    IsShallow (readItems fuel room s) := by
  cases fuel
  case zero => exact nofun
  case succ fuel =>
    have h := Nat.le_of_succ_le h
    rw [readItems]
    split
    case h_1 stop hv =>
      intro container he
      cases he
      exact isShallow_readValue h s container hv
    case h_2 =>
      split
      case h_1 => exact nofun
      case h_2 => exact (isShallow_readItems h _).map _
      case h_3 => exact nofun

theorem isShallow_readMembers {fuel room : Nat} (h : fuel ≤ room) (s : List Char) :
    IsShallow (readMembers fuel room s) := by
  cases fuel
  case zero => exact nofun
  case succ fuel =>
    have h := Nat.le_of_succ_le h
    rw [readMembers.eq_def]
    dsimp only
    split
    case h_1 =>
      split
      case h_1 stop ht =>
        intro container he
        cases he
        exact isShallow_readText _ container ht
      case h_2 =>
        split
        case h_1 =>
          split
          case h_1 stop hv =>
            intro container he
            cases he
            exact isShallow_readValue h _ container hv
          case h_2 =>
            split
            case h_1 => exact nofun
            case h_2 => exact (isShallow_readMembers h _).map _
            case h_3 => exact nofun
        case h_2 => exact nofun
    case h_2 => exact nofun

end

-- No text is too deep where there is enough of the stack left.
theorem exists_enough_read (text : String) :
    ∃ enough, ∀ stack : Stack, enough ≤ stack.frames →
      ∀ container, read stack text ≠ .error (.tooDeep container) := by
  refine ⟨2 * text.toList.length + 1 + 3, fun stack hs container he => ?_⟩
  have hv := isShallow_readValue (Nat.le_sub_of_add_le hs) (skipSpace text.toList)
  have hr : readAll stack.room text.toList = .error (.tooDeep container) := by
    rw [read] at he
    cases hr : readAll stack.room text.toList with
    | error stop =>
      rw [hr] at he
      cases stop <;> cases he
      rfl
    | ok => simp [hr, Except.mapError] at he
  unfold readAll at hr
  repeat' split at hr
  all_goals cases hr
  exact hv container ‹_›

-- With enough of the stack left a value of which printing loses nothing is written. Whatever is
-- written of it is printable ASCII, and is read back as the value, the members of its objects in
-- their order, by whoever has as much of the stack left as the writer.
theorem read_written (v : Json) (h : v.isExact = true) (sep : Separators)
    (hs : sep = .spaced ∨ sep = .compact) :
    (∃ enough, ∀ stack : Stack, enough ≤ stack.frames → ∃ text, v.write stack sep = .ok text) ∧
    ∀ (stack : Stack) (text : String), v.write stack sep = .ok text →
      (∀ reader : Stack, stack.frames ≤ reader.frames → read reader text = .ok v) ∧
      ∀ c ∈ text.toList, ' ' ≤ c ∧ c ≤ '~' := by
  obtain ⟨hf, ht, hv⟩ := rereads_of_isCarried (isCarried_of_isExact h)
  obtain ⟨hb, hp⟩ : sep.AreBlank ∧ sep.ArePrintable := by
    rcases hs with rfl | rfl
    case inl => exact ⟨areBlank_spaced, arePrintable_spaced⟩
    case inr => exact ⟨areBlank_compact, arePrintable_compact⟩
  refine ⟨⟨v.depth + 3, fun stack he => ?written⟩,
    fun stack text hw => ⟨fun reader hr => ?read, fun c hc => ?printable⟩⟩
  case written => exact ⟨_, write_eq_ok sep (Nat.le_sub_of_add_le he) ht⟩
  case read => rw [read_of_write hb hf hw hr, hv]
  case printable =>
    rw [← (write_eq_ok_iff.mp hw).right, String.toList_ofList] at hc
    simpa [isPrintable] using isPrintable_of_mem_print hp v hf hc

def nested : Nat → Json
  | 0 => .null
  | n + 1 => .array [nested n]

theorem depth_nested (n : Nat) : (nested n).depth = n := by
  induction n
  case zero => rfl
  case succ n hi => simp [nested, depth, itemsDepth, hi]

theorem isExact_nested (n : Nat) : (nested n).isExact = true := by
  induction n
  case zero => rfl
  case succ n hi => simpa [nested, isExact, isCarriedWith, areCarriedWith] using hi

theorem write_nested {stack : Stack} (sep : Separators) {n : Nat} (h : stack.room < n) :
    (nested n).write stack sep = .error .tooDeep := by
  have ho : ∀ {room}, room < n → (nested n).obstacle? room = some .tooDeep := by
    clear h
    induction n
    case zero => exact fun hr => absurd hr (Nat.not_lt_zero _)
    case succ n hi =>
      intro room hr
      cases room
      case zero => rfl
      case succ room => simp [nested, obstacle?, itemsObstacle?, hi (Nat.lt_of_succ_lt_succ hr)]
  rw [write, ho h]

theorem length_print_nested (sep : Separators) (n : Nat) : n ≤ ((nested n).print sep).length := by
  induction n
  case zero => exact Nat.zero_le _
  case succ n hi => simpa [nested, print, printItems] using Nat.le_succ_of_le hi

theorem readValue_nested (sep : Separators) {n fuel room : Nat} (hr : room < n) (hf : 2 * n ≤ fuel)
    (rest : List Char) :
    readValue fuel room ((nested n).print sep ++ rest) = .error (.tooDeep .array) := by
  induction n generalizing fuel room rest
  case zero => exact absurd hr (Nat.not_lt_zero _)
  case succ n hi =>
    obtain ⟨fuel, rfl⟩ := Nat.exists_eq_add_of_le' (Nat.le_trans (Nat.le_add_left 2 (2 * n)) hf)
    have hp (rest : List Char) : (nested (n + 1)).print sep ++ rest =
        '[' :: ((nested n).print sep ++ (']' :: rest)) := by
      simp [nested, print, printItems]
    rw [hp, readValue.eq_def]
    cases room
    case zero => rfl
    case succ room =>
      -- What is inside is a list again, since there is one more of them than there is room for.
      obtain ⟨k, rfl⟩ := Nat.exists_eq_add_of_lt (Nat.lt_of_le_of_lt (Nat.zero_le _)
        (Nat.lt_of_succ_lt_succ hr))
      have hf : 2 * (0 + k + 1) ≤ fuel := by omega
      have hi := hi (Nat.lt_of_succ_lt_succ hr) hf (']' :: rest)
      have hx : readItems (fuel + 1) room ((nested (0 + k + 1)).print sep ++ (']' :: rest)) =
          .error (.tooDeep .array) := by rw [readItems, hi]
      exact congrArg (Except.map fun read => (Json.array read.1, read.2)) hx

theorem read_spaced_nested {stack : Stack} {n : Nat} (h : stack.room < n) :
    read stack (nested n).spaced = .error (.tooDeep .array) := by
  have hf : 2 * n ≤ 2 * ((nested n).print .spaced).length + 1 := by
    have := length_print_nested .spaced n
    omega
  have hv := readValue_nested .spaced h hf []
  rw [List.append_nil] at hv
  cases n
  case zero => exact absurd h (Nat.not_lt_zero _)
  case succ n =>
    have hs : skipSpace ((nested (n + 1)).print .spaced) = (nested (n + 1)).print .spaced := rfl
    have hb : ((nested (n + 1)).print .spaced).head? ≠ some '\uFEFF' := by
      simp [nested, print]
    rw [read, readAll, spaced, String.toList_ofList, if_neg hb, hs, hv]
    rfl

def escapes : Json :=
  .object [(.plain "é\"\\\n\x7f", .array [.int (-12), .text (.plain "\x00😀/"), .object []]),
    (.plain "", .array [.null, .bool true, nested 40])]

theorem read_written_escapes :
    escapes.isExact = true ∧ ∃ text, escapes.write default .compact = .ok text ∧
      read default text = .ok escapes := by
  have he : escapes.isExact = true := by decide
  have ht : escapes.tooLong? = none := (rereads_of_isCarried (isCarried_of_isExact he)).right.left
  have hw := @write_eq_ok escapes default .compact (by decide +kernel) ht
  have ⟨hr, _⟩ := (read_written escapes he .compact (.inr rfl)).right default _ hw
  exact ⟨he, _, hw, hr default (Nat.le_refl _)⟩

-- A value may be too deep to be written, and what was written where more of the stack was left may
-- be too deep to be read.
theorem nested_not_read :
    (nested 990).isExact = true ∧
    (nested 990).write default .spaced = .error .tooDeep ∧
    ∃ text, (nested 990).write ⟨1000, by decide⟩ .spaced = .ok text ∧
      read default text ≠ .ok (nested 990) := by
  have he := isExact_nested 990
  have ht : (nested 990).tooLong? = none :=
    (rereads_of_isCarried (isCarried_of_isExact he)).right.left
  refine ⟨he, write_nested .spaced (by decide), _, write_eq_ok .spaced ?_ ht, fun hr => ?_⟩
  case refine_1 =>
    rw [depth_nested]
    decide
  case refine_2 =>
    have hd := depth_of_read hr
    rw [depth_nested] at hd
    exact absurd hd (by decide)

end Json

end DocStore
