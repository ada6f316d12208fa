import DocStore.Proofs.Json.RoundTrip

namespace DocStore.Json

-- Of two parts both have room, or one of them is the reason why the whole has none.
theorem obstacle_or_cases {d d' room : Nat} {o o' t t' : Option Obstacle}
    (h : d ≤ room ∧ o = t ∨ room < d ∧ o ≠ none)
    (h' : d' ≤ room ∧ o' = t' ∨ room < d' ∧ o' ≠ none) :
    max d d' ≤ room ∧ o.or o' = t.or t' ∨ room < max d d' ∧ o.or o' ≠ none := by
  rcases h with ⟨hd, rfl⟩ | ⟨hd, ho⟩
  case inr =>
    exact .inr ⟨Nat.lt_of_lt_of_le hd (Nat.le_max_left ..),
      mt Option.or_eq_none_iff.mp fun hn => ho hn.left⟩
  case inl =>
    rcases h' with ⟨hd', rfl⟩ | ⟨hd', ho'⟩
    case inl => exact .inl ⟨Nat.max_le.mpr ⟨hd, hd'⟩, rfl⟩
    case inr =>
      exact .inr ⟨Nat.lt_of_lt_of_le hd' (Nat.le_max_right ..),
        mt Option.or_eq_none_iff.mp fun hn => ho' hn.right⟩

mutual

theorem obstacle?_cases : ∀ (v : Json) (room : Nat),
    (v.depth ≤ room ∧ v.obstacle? room = v.tooLong?.map fun _ => .overlong) ∨
    (room < v.depth ∧ v.obstacle? room ≠ none)
  | .null, _ => .inl ⟨Nat.zero_le _, by simp [obstacle?, tooLong?]⟩
  | .bool _, _ => .inl ⟨Nat.zero_le _, by simp [obstacle?, tooLong?]⟩
  | .int n, _ => by
    refine .inl ⟨Nat.zero_le _, ?_⟩
    rw [obstacle?, tooLong?]
    cases ho : overlong? n.natAbs
    case none => simp [overlong?_eq_none_iff.mp ho]
    case some => simp [mt overlong?_eq_none_iff.mpr (ho ▸ Option.some_ne_none _)]
  | .float _, _ => .inl ⟨Nat.zero_le _, by simp [obstacle?, tooLong?]⟩
  | .text _, _ => .inl ⟨Nat.zero_le _, by simp [obstacle?, tooLong?]⟩
  | .array _, 0 => .inr ⟨by simp [depth], by simp [obstacle?]⟩
  | .object _, 0 => .inr ⟨by simp [depth], by simp [obstacle?]⟩
  | .array items, room + 1 => by
    simpa [depth, obstacle?, tooLong?] using itemsObstacle?_cases items room
  | .object members, room + 1 => by
    simpa [depth, obstacle?, tooLong?] using membersObstacle?_cases members room

theorem itemsObstacle?_cases : ∀ (items : List Json) (room : Nat),
    (itemsDepth items ≤ room ∧
      itemsObstacle? room items = (itemsTooLong? items).map fun _ => .overlong) ∨
    (room < itemsDepth items ∧ itemsObstacle? room items ≠ none)
  | [], _ => .inl ⟨Nat.zero_le _, by simp [itemsObstacle?, itemsTooLong?]⟩
  | item :: items, room => by
    rw [itemsDepth, itemsObstacle?, itemsTooLong?, Option.map_or]
    exact obstacle_or_cases (obstacle?_cases item room) (itemsObstacle?_cases items room)

theorem membersObstacle?_cases : ∀ (members : List (JsonText × Json)) (room : Nat),
    (membersDepth members ≤ room ∧
      membersObstacle? room members = (membersTooLong? members).map fun _ => .overlong) ∨
    (room < membersDepth members ∧ membersObstacle? room members ≠ none)
  | [], _ => .inl ⟨Nat.zero_le _, by simp [membersObstacle?, membersTooLong?]⟩
  | (_, value) :: members, room => by
    rw [membersDepth, membersObstacle?, membersTooLong?, Option.map_or]
    exact obstacle_or_cases (obstacle?_cases value room) (membersObstacle?_cases members room)

end

theorem obstacle?_eq_none_iff {v : Json} {room : Nat} :
    v.obstacle? room = none ↔ v.depth ≤ room ∧ v.tooLong? = none := by
  rcases obstacle?_cases v room with ⟨hd, ho⟩ | ⟨hd, ho⟩
  case inl => rw [ho, Option.map_eq_none_iff, and_iff_right hd]
  case inr => exact iff_of_false ho fun h => Nat.not_lt.mpr h.left hd

variable {v : Json} {stack : Stack} {sep : Separators} {text : String}

theorem write_eq_ok_iff :
    v.write stack sep = .ok text ↔
      (v.depth ≤ stack.room ∧ v.tooLong? = none) ∧ String.ofList (v.print sep) = text := by
  rw [← obstacle?_eq_none_iff, write]
  cases v.obstacle? stack.room <;> simp

theorem write_eq_ok (sep : Separators) (hd : v.depth ≤ stack.room) (ht : v.tooLong? = none) :
    v.write stack sep = .ok (String.ofList (v.print sep)) :=
  write_eq_ok_iff.mpr ⟨⟨hd, ht⟩, rfl⟩

-- Where there is room for a value, only its numbers keep it from being written.
theorem write_of_depth_le (sep : Separators) (hd : v.depth ≤ stack.room) :
    v.write stack sep =
      match v.tooLong? with
      | some _ => .error .overlong
      | none => .ok (String.ofList (v.print sep)) := by
  rcases obstacle?_cases v stack.room with ⟨_, ho⟩ | ⟨hd', _⟩
  case inl =>
    rw [write, ho]
    cases v.tooLong? <;> rfl
  case inr => exact absurd hd (Nat.not_le.mpr hd')

theorem read_ofList_print (hs : sep.AreBlank) (he : v.isFloatFree = true)
    (hd : v.depth ≤ stack.room) :
    read stack (String.ofList (v.print sep)) =
      match v.tooLong? with
      | some digits => .error (.tooLong digits)
      | none => .ok v.reread := by
  rw [read, String.toList_ofList, readAll_print hs he hd]
  cases v.tooLong? <;> rfl

theorem read_spaced (he : v.isFloatFree = true) (hd : v.depth ≤ stack.room)
    (ht : v.tooLong? = none) : read stack v.spaced = .ok v.reread := by
  rw [spaced, read_ofList_print areBlank_spaced he hd, ht]

theorem read_compact (he : v.isFloatFree = true) (hd : v.depth ≤ stack.room)
    (ht : v.tooLong? = none) : read stack v.compact = .ok v.reread := by
  rw [compact, read_ofList_print areBlank_compact he hd, ht]

theorem room_mono {stack stack' : Stack} (h : stack.frames ≤ stack'.frames) :
    stack.room ≤ stack'.room :=
  Nat.sub_le_sub_right h 3

-- Whoever has as much of the stack as the writer reads what was written.
theorem read_of_write {reader : Stack} (hs : sep.AreBlank) (he : v.isFloatFree = true)
    (hw : v.write stack sep = .ok text) (hr : stack.frames ≤ reader.frames) :
    read reader text = .ok v.reread := by
  obtain ⟨⟨hd, ht⟩, rfl⟩ := write_eq_ok_iff.mp hw
  rw [read_ofList_print hs he (Nat.le_trans hd (room_mono hr)), ht]

mutual

theorem copyFrames_bounds : ∀ v : Json,
    2 * v.depth ≤ v.copyFrames ∧ v.copyFrames ≤ 2 * v.depth + 1
  | .null => by simp [depth, copyFrames]
  | .bool _ => by simp [depth, copyFrames]
  | .int _ => by simp [depth, copyFrames]
  | .float _ => by simp [depth, copyFrames]
  | .text _ => by simp [depth, copyFrames]
  | .array items => by
    have := itemsCopyFrames_bounds items
    simp only [depth, copyFrames]
    omega
  | .object members => by
    have := membersCopyFrames_bounds members
    simp only [depth, copyFrames]
    omega

theorem itemsCopyFrames_bounds : ∀ items : List Json,
    2 * itemsDepth items ≤ itemsCopyFrames items ∧
      itemsCopyFrames items ≤ 2 * itemsDepth items + 1
  | [] => by simp [itemsDepth, itemsCopyFrames]
  | item :: items => by
    have := copyFrames_bounds item
    have := itemsCopyFrames_bounds items
    simp only [itemsDepth, itemsCopyFrames]
    omega

theorem membersCopyFrames_bounds : ∀ members : List (JsonText × Json),
    2 * membersDepth members ≤ membersCopyFrames members ∧
      membersCopyFrames members ≤ 2 * membersDepth members + 1
  | [] => by simp [membersDepth, membersCopyFrames]
  | (_, value) :: members => by
    have := copyFrames_bounds value
    have := membersCopyFrames_bounds members
    simp only [membersDepth, membersCopyFrames]
    omega

end

end DocStore.Json
