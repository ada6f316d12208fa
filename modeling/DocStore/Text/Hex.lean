namespace DocStore.Text.Hex

def lowerDigit (n : Nat) : Char :=
  Nat.digitChar n

def upperDigit (n : Nat) : Char :=
  (Nat.digitChar n).toUpper

-- The lowest `width` hexadecimal digits of a number, most significant first.
def fixed : (width : Nat) → (n : Nat) → List Char
  | 0, _ => []
  | width + 1, n => fixed width (n / 16) ++ [lowerDigit (n % 16)]

theorem length_fixed (width n : Nat) : (fixed width n).length = width := by
  induction width generalizing n with
  | zero => rfl
  | succ width ih => simp [fixed, ih]

def value? (c : Char) : Option Nat :=
  let code := c.toNat
  if 0x30 ≤ code ∧ code ≤ 0x39 then some (code - 0x30)
  else if 0x41 ≤ code ∧ code ≤ 0x46 then some (code - 0x37)
  else if 0x61 ≤ code ∧ code ≤ 0x66 then some (code - 0x57)
  else none

-- The number that a run of hexadecimal digits denotes, or nothing if another character is met.
def number? (digits : List Char) : Option Nat :=
  digits.foldlM (fun value c => (value? c).map (16 * value + ·)) 0

end DocStore.Text.Hex
