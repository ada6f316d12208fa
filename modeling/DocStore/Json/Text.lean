import DocStore.Text.CodePoint

namespace DocStore

inductive JsonText where
  | plain (s : String)
  | broken (points : List CodePoint) (hasSurrogate : points.any CodePoint.isSurrogate = true)
deriving DecidableEq, Repr

namespace JsonText

instance : Coe String JsonText := ⟨.plain⟩

def points : JsonText → List CodePoint
  | .plain s => s.toList.map .char
  | .broken points _ => points

def ofPoints (points : List CodePoint) : JsonText :=
  if h : points.any CodePoint.isSurrogate = true then .broken points h
  else .plain (String.ofList (points.filterMap CodePoint.char?))

@[simp] theorem points_ofPoints (points : List CodePoint) : (ofPoints points).points = points := by
  unfold ofPoints
  split
  · rfl
  · rename_i h
    simpa [JsonText.points] using CodePoint.map_char_of_no_surrogate (by simpa using h)

@[simp] theorem ofPoints_points (t : JsonText) : ofPoints t.points = t := by
  cases t with
  | plain s => simp [ofPoints, points, CodePoint.isSurrogate, List.filterMap_map, CodePoint.char?,
      Function.comp_def]
  | broken points h => simp [ofPoints, JsonText.points, h]

theorem points_inj {s t : JsonText} : s.points = t.points ↔ s = t :=
  ⟨fun h => by rw [← ofPoints_points s, h, ofPoints_points], fun h => h ▸ rfl⟩

def string? : JsonText → Option String
  | .plain s => some s
  | .broken _ _ => none

@[simp] theorem string?_eq_some {t : JsonText} {s : String} :
    t.string? = some s ↔ t = .plain s := by
  cases t <;> simp [string?]

-- What can be shown of a text: a broken one has a replacement character for each surrogate.
def shown : JsonText → String
  | .plain s => s
  | .broken points _ => String.ofList (points.map fun p => p.char?.getD '\uFFFD')

-- The texts of one code point each that make up a text.
def singles (t : JsonText) : List JsonText :=
  t.points.map fun p => ofPoints [p]

instance : Append JsonText where
  append
    | .plain s, .plain t => .plain (s ++ t)
    | s, t => ofPoints (s.points ++ t.points)

@[simp] theorem plain_append (s t : String) : plain s ++ plain t = plain (s ++ t) :=
  rfl

@[simp] theorem points_append (s t : JsonText) : (s ++ t).points = s.points ++ t.points := by
  match s, t with
  | .plain s, .plain t => simp [points]
  | .plain _, .broken _ _ => exact points_ofPoints _
  | .broken _ _, _ => exact points_ofPoints _

def codes (t : JsonText) : List Nat :=
  t.points.map CodePoint.code

-- Texts are in the order of the code points at the first place where they differ.
instance : LE JsonText where
  le s t := ¬t.codes < s.codes

instance (s t : JsonText) : Decidable (s ≤ t) :=
  inferInstanceAs (Decidable (¬t.codes < s.codes))

theorem codes_plain (s : String) : (plain s).codes = s.toList.map Char.toNat := by
  simp [codes, points, CodePoint.code, Function.comp_def]

theorem map_toNat_lt_iff {s t : List Char} : s.map Char.toNat < t.map Char.toNat ↔ s < t := by
  induction s generalizing t with
  | nil => cases t <;> simp
  | cons a s ih =>
    cases t with
    | nil => simp
    | cons b t =>
      simp only [List.map_cons, List.cons_lt_cons_iff, ih, Char.toNat_inj]
      exact Iff.rfl

-- Strings are in the order that they have among strings.
@[simp] theorem plain_le_plain {s t : String} : plain s ≤ plain t ↔ s ≤ t := by
  change ¬(plain t).codes < (plain s).codes ↔ ¬t < s
  rw [codes_plain, codes_plain, map_toNat_lt_iff]
  exact Iff.rfl

end JsonText

end DocStore
