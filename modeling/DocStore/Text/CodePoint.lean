namespace DocStore

inductive CodePoint where
  | char (c : Char)
  -- The surrogate at a place among all of them.
  | surrogate (place : Fin 0x800)
deriving DecidableEq, Repr

namespace CodePoint

def firstSurrogate : Nat := 0xD800

def code : CodePoint → Nat
  | .char c => c.toNat
  | .surrogate place => firstSurrogate + place.val

def isSurrogate : CodePoint → Bool
  | .char _ => false
  | .surrogate _ => true

def char? : CodePoint → Option Char
  | .char c => some c
  | .surrogate _ => none

-- The code point that a unit of 16 bits stands for by itself.
def ofUnit (unit : Nat) : CodePoint :=
  if h : firstSurrogate ≤ unit ∧ unit < firstSurrogate + 0x800 then
    .surrogate ⟨unit - firstSurrogate, by omega⟩
  else .char (.ofNat unit)

theorem map_char_of_no_surrogate {points : List CodePoint}
    (h : points.any isSurrogate = false) : (points.filterMap char?).map .char = points := by
  induction points with
  | nil => rfl
  | cons p points ih =>
    cases p with
    | char c => simpa [char?, isSurrogate] using ih (by simpa [isSurrogate] using h)
    | surrogate place => simp [isSurrogate] at h

end CodePoint

end DocStore
