import DocStore.Text.Digit
import DocStore.Text.Numeral

namespace DocStore.Text

theorem digitValue?_of_isDigit {c : Char} (h : c.isDigit = true) :
    digitValue? c = some (c.toNat - '0'.toNat) := by
  have hc : 48 ≤ c.toNat ∧ c.toNat ≤ 57 := by
    simpa [Char.isDigit, UInt32.le_iff_toNat_le] using h
  have hf : decimalZeros.find? (fun z => z ≤ c.toNat && c.toNat < z + 10) = some 0x30 := by
    rw [decimalZeros, List.find?_cons_of_pos]
    simp
    omega
  simp [digitValue?, hf]

theorem isDecimalDigit_of_isDigit {c : Char} (h : c.isDigit = true) : isDecimalDigit c = true := by
  simp [isDecimalDigit, digitValue?_of_isDigit h]

theorem isDecimalDigit_of_mem_toDigits {n : Nat} {c : Char} (h : c ∈ Nat.toDigits 10 n) :
    isDecimalDigit c = true :=
  isDecimalDigit_of_isDigit <| Nat.isDigit_of_mem_toDigits (by decide) (by decide) h

theorem decimalValue_eq_ofDigitChars {digits : List Char} (h : ∀ c ∈ digits, c.isDigit = true) :
    decimalValue digits = Nat.ofDigitChars 10 digits 0 := by
  suffices ∀ n, digits.foldl (fun value c => 10 * value + (digitValue? c).getD 0) n =
      Nat.ofDigitChars 10 digits n from this 0
  induction digits
  case nil => simp
  case cons c digits hi =>
    intro n
    simp only [List.mem_cons, forall_eq_or_imp] at h
    simp [Nat.ofDigitChars_cons, digitValue?_of_isDigit h.left, hi h.right]

@[simp] theorem decimalValue_toDigits (n : Nat) : decimalValue (Nat.toDigits 10 n) = n := by
  have h : ∀ c ∈ Nat.toDigits 10 n, c.isDigit = true :=
    fun _ hc => Nat.isDigit_of_mem_toDigits (by decide) (by decide) hc
  simp [decimalValue_eq_ofDigitChars h]

theorem length_toDigits_le_iff {n k : Nat} (hk : 0 < k) :
    (Nat.toDigits 10 n).length ≤ k ↔ n < Nat.pow 10 k :=
  Nat.length_toDigits_le_iff (by decide) hk

theorem isOverlong_eq_false_iff {n : Int} :
    isOverlong n = false ↔ n.natAbs < Nat.pow 10 digitLimit := by
  rw [isOverlong, decide_eq_false_iff_not, Nat.not_lt, length_toDigits_le_iff (by decide)]

theorem isOverlong_iff {n : Int} :
    isOverlong n = true ↔ Nat.pow 10 digitLimit ≤ n.natAbs := by
  rw [← Bool.not_eq_false, isOverlong_eq_false_iff, Nat.not_lt]

-- Codes of responses are far from too long.
theorem isOverlong_of_lt {n : Int} (h : n.natAbs < 1000) : isOverlong n = false := by
  have hl : (Nat.toDigits 10 n.natAbs).length ≤ 3 := (length_toDigits_le_iff (by decide)).mpr h
  rw [isOverlong, decide_eq_false_iff_not, Nat.not_lt]
  exact Nat.le_trans hl (by decide)

-- Only zero is written with a zero in front.
theorem eq_zero_of_toDigits_eq_cons {n : Nat} {rest : List Char}
    (h : Nat.toDigits 10 n = '0' :: rest) : n = 0 := by
  induction n using Nat.strongRecOn generalizing rest
  case ind n hi =>
    by_cases hn : n < 10
    case pos =>
      rw [Nat.toDigits_of_lt_base hn] at h
      have hc := List.head_eq_of_cons_eq h
      suffices ∀ m : Fin 10, Nat.digitChar m = '0' → m.val = 0 from this ⟨n, hn⟩ hc
      decide
    case neg =>
      rw [Nat.toDigits_of_base_le (by decide) (by omega)] at h
      cases hd : Nat.toDigits 10 (n / 10)
      case nil => exact absurd hd Nat.toDigits_ne_nil
      case cons c digits =>
        rw [hd, List.cons_append] at h
        have := hi (n / 10) (by omega) (List.head_eq_of_cons_eq h ▸ hd)
        omega

end DocStore.Text
