import DocStore.Failure
import DocStore.Proofs.Utf8
import Mathlib.Data.List.Forall2

namespace DocStore

namespace Utf8

-- A code point is below the bound for its length, so nothing is cut off of its leading digit.
theorem encodeChar_eq (c : Char) : encodeChar c = String.utf8EncodeChar c := by
  have hc : c.val.toNat < 0x110000 := by
    have := c.valid
    simp only [UInt32.isValidChar, Nat.isValidChar] at this
    omega
  simp only [encodeChar, String.utf8EncodeChar, Char.toNat]
  generalize c.val.toNat = code at hc
  have h₁ : code < 0x80 ↔ code ≤ 127 := by omega
  have h₂ : code < 0x800 ↔ code ≤ 2047 := by omega
  have h₃ : code < 0x10000 ↔ code ≤ 65535 := by omega
  simp only [h₁, h₂, h₃]
  split_ifs with hl₁ hl₂ hl₃
  case pos => rfl
  case pos =>
    have hd : code / 0x40 % 32 = code / 0x40 := by omega
    simp only [hd, Nat.add_comm]
  case pos =>
    have hd : code / 0x1000 % 16 = code / 0x1000 := by omega
    simp only [hd, Nat.add_comm]
  case neg =>
    have hd : code / 0x40000 % 8 = code / 0x40000 := by omega
    simp only [hd, Nat.add_comm]

theorem encode_toList (s : String) : encode s.toList = s.toUTF8.data.toList := by
  have he : encodeChar = String.utf8EncodeChar := funext encodeChar_eq
  rw [String.toUTF8_eq_toByteArray, ← String.utf8Encode_toList, List.utf8Encode,
    List.data_toByteArray, List.toList_toArray, encode, he]

end Utf8

namespace FieldInput

theorem toText_bytes_eq_ok {bytes : List UInt8} {s : String} :
    (FieldInput.bytes bytes).toText = .ok s ↔ bytes = s.toUTF8.data.toList := by
  rw [← Utf8.encode_toList, ← Utf8.decode_eq_ok_iff, toText]
  cases Utf8.decode bytes
  case error => simp [Except.map]
  case ok cs => simp [Except.map, ← String.toList_inj]

-- What bytes are read as has no surrogates.
theorem toText_bytes_plain {bytes : List UInt8} {t : JsonText}
    (h : (FieldInput.bytes bytes).toText = .ok t) : ∃ s : String, t = s := by
  rw [toText] at h
  cases hd : Utf8.decode bytes <;> rw [hd] at h <;> cases h
  exact ⟨_, rfl⟩

-- Values of which one may be the bytes of the text that the other is.
inductive Spells : FieldInput → FieldInput → Prop
  | refl (value : FieldInput) : Spells value value
  | bytes (s : String) : Spells (.bytes s.toUTF8.data.toList) (.text s)

theorem Spells.toText_eq {value value' : FieldInput} (h : Spells value value') :
    value.toText = value'.toText := by
  cases h
  case refl => rfl
  case bytes s => exact toText_bytes_eq_ok.mpr rfl

end FieldInput

namespace Mutation

-- The same names with values of which some may be the bytes of a text in the place of the text.
def Spell (values values' : List (JsonText × FieldInput)) : Prop :=
  List.Forall₂ (fun e e' => e.1 = e'.1 ∧ e.2.Spells e'.2) values values'

theorem Spell.fields_eq {values values' : List (JsonText × FieldInput)} (h : Spell values values') :
    fields values = fields values' := by
  induction h
  case nil => rfl
  case cons e e' _ _ he _ hi =>
    have ⟨name, value⟩ := e
    have ⟨name', value'⟩ := e'
    obtain ⟨rfl, hs⟩ := he
    simp only [fields, hs.toText_eq, hi]

-- A value of bytes is read as a text exactly if it is the UTF-8 of that text, and bytes that are of
-- no text are refused. A mutation has the same body for the bytes of texts as for the texts.
theorem body_of_bytes :
    (∀ (bytes : List UInt8) (s : String),
      (FieldInput.bytes bytes).toText = .ok s ↔ bytes = s.toUTF8.data.toList) ∧
    (∀ bytes : List UInt8, (∀ s : String, bytes ≠ s.toUTF8.data.toList) →
      ∃ e, (FieldInput.bytes bytes).toText = .error e ∧
        (Failure.badBytes e).kind? = some .invalidValue) ∧
    ∀ (kind : MutationKind) (type id : JsonText) (values values' : List (JsonText × FieldInput)),
      Spell values values' →
        body ⟨kind, type, id, values⟩ = body ⟨kind, type, id, values'⟩ := by
  refine ⟨fun _ _ => FieldInput.toText_bytes_eq_ok, ?refused, ?same⟩
  case refused =>
    intro bytes hb
    cases ht : (FieldInput.bytes bytes).toText
    case error e => exact ⟨e, rfl, rfl⟩
    case ok t =>
      obtain ⟨s, rfl⟩ := FieldInput.toText_bytes_plain ht
      exact absurd (FieldInput.toText_bytes_eq_ok.mp ht) (hb s)
  case same =>
    intro kind type id values values' h
    rw [body, payload, h.fields_eq]
    rfl

-- An overlong form of the first character; the two bytes of a letter beside a byte that stays one.
theorem body_of_bytes_letter :
    ((∀ s : String, [0xC0, 0x80] ≠ s.toUTF8.data.toList) ∧
      ∃ e, (FieldInput.bytes [0xC0, 0x80]).toText = .error e ∧
        (Failure.badBytes e).kind? = some .invalidValue) ∧
    Spell [("name", .bytes [0xC3, 0xB6]), ("rest", .bytes [0x61])]
      [("name", .text "\u00F6"), ("rest", .bytes [0x61])] ∧
    body ⟨.patch, "user", "u1", [("name", .bytes [0xC3, 0xB6]), ("rest", .bytes [0x61])]⟩ =
      body ⟨.patch, "user", "u1", [("name", .text "\u00F6"), ("rest", .bytes [0x61])]⟩ := by
  have ⟨_, hr, hb⟩ := body_of_bytes
  have ho : ∀ s : String, [0xC0, 0x80] ≠ s.toUTF8.data.toList := by
    intro s hs
    cases FieldInput.toText_bytes_eq_ok.mpr hs
  have hv : Spell
      [("name", .bytes [0xC3, 0xB6]), ("rest", .bytes [0x61])]
      [("name", .text "\u00F6"), ("rest", .bytes [0x61])] :=
    .cons ⟨rfl, .bytes "\u00F6"⟩ (.cons ⟨rfl, .refl _⟩ .nil)
  exact ⟨⟨ho, hr _ ho⟩, hv, hb .patch "user" "u1" _ _ hv⟩

end Mutation

end DocStore
