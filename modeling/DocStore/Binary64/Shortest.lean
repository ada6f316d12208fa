import DocStore.Binary64

namespace DocStore.Binary64

-- `digits · 10 ^ exponent`.
structure Decimal where
  digits   : Nat
  exponent : Int
deriving DecidableEq, Repr

-- Compares `a · 10 ^ i` with `b · 2 ^ j`.
def compareScaled (a : Nat) (i : Int) (b : Nat) (j : Int) : Ordering :=
  compare (a * power 10 i * power 2 (-j)) (b * power 2 j * power 10 (-i))

-- Whether a decimal rounds to `significand · 2 ^ exponent`. The numbers that do lie between the
-- midpoints to its two neighbours, with the midpoints themselves if the significand is even.
-- Below a power of two the neighbour is only half as far away.
def readsBack (significand : Nat) (exponent : Int) (d : Decimal) : Bool :=
  let narrow := significand = power 2 (precision - 1) && leastExponent < exponent
  let low := if narrow then 4 * significand - 1 else 4 * significand - 2
  let high := 4 * significand + 2
  let even := significand % 2 == 0
  let aboveLow := compareScaled d.digits d.exponent low (exponent - 2)
  let belowHigh := compareScaled d.digits d.exponent high (exponent - 2)
  (aboveLow == .gt || (even && aboveLow == .eq)) && (belowHigh == .lt || (even && belowHigh == .eq))

-- The least `k` with `significand · 2 ^ exponent < 10 ^ k`; the logarithm gives it but for a step.
def scale (significand : Nat) (exponent : Int) : Int :=
  let guess := ((significand.log2 : Int) + exponent) * 30103 / 100000
  let below := fun k => compareScaled 1 k significand exponent == .gt
  if below guess then guess
  else if below (guess + 1) then guess + 1
  else guess + 2

-- The best decimal on the grid of multiples of `10 ^ grid`, if one there reads back.
def onGrid? (significand : Nat) (exponent grid : Int) : Option Decimal :=
  let num := significand * power 2 exponent * power 10 (-grid)
  let den := power 2 (-exponent) * power 10 grid
  let low : Decimal := ⟨num / den, grid⟩
  let high : Decimal := ⟨num / den + 1, grid⟩
  match readsBack significand exponent low, readsBack significand exponent high with
  | true, true   => some ⟨roundDiv num den, grid⟩
  | true, false  => some low
  | false, true  => some high
  | false, false => none

-- Seventeen digits tell any two values apart.
def greatestDigits : Nat := 17

def stripZeros : Nat → Decimal → Decimal
  | 0, d => d
  | fuel + 1, d =>
    if d.digits % 10 = 0 ∧ d.digits ≠ 0 then stripZeros fuel ⟨d.digits / 10, d.exponent + 1⟩
    else d

-- The shortest decimal of `significand · 2 ^ exponent`, for a significand above zero.
def shortest (significand : Nat) (exponent : Int) : Decimal :=
  let k := scale significand exponent
  let grids := (List.range greatestDigits).map fun n => k - (n + 1 : Nat)
  match grids.findSome? (onGrid? significand exponent) with
  | some d => stripZeros greatestDigits d
  | none   => ⟨significand * power 2 exponent * power 5 (-exponent), min 0 exponent⟩

-- The decisions of a layout for decimals.
structure Layout where
  -- The least and the greatest power of ten of a first digit that is written positionally.
  leastPositional    : Int
  greatestPositional : Int
  -- The least number of digits of a written exponent.
  exponentWidth      : Nat

-- Positional from `0.0001` to below `10 ^ 16`; an exponent has its sign and two digits or more.
def plain : Layout := ⟨-4, 15, 2⟩

def padded (width n : Nat) : List Char :=
  let digits := Nat.toDigits 10 n
  List.replicate (width - digits.length) '0' ++ digits

-- Writes a decimal; a positional one always has digits on both sides of the point.
def Decimal.write (layout : Layout) (d : Decimal) : List Char :=
  let digits := Nat.toDigits 10 d.digits
  let power := d.exponent + digits.length - 1
  if layout.leastPositional ≤ power ∧ power ≤ layout.greatestPositional then
    if power < 0 then
      ['0', '.'] ++ List.replicate (-power - 1).toNat '0' ++ digits
    else
      let whole := digits.take (power.toNat + 1)
      let fraction := digits.drop (power.toNat + 1)
      whole ++ List.replicate (power.toNat + 1 - digits.length) '0' ++ '.' ::
        if fraction.isEmpty then ['0'] else fraction
  else
    let fraction := digits.drop 1
    digits.take 1 ++ (if fraction.isEmpty then [] else '.' :: fraction) ++
      ['e', if power < 0 then '-' else '+'] ++ padded layout.exponentWidth power.natAbs

def writeFinite (negative : Bool) (significand : Nat) (exponent : Int) : List Char :=
  let size := if significand = 0 then ⟨0, 0⟩ else shortest significand exponent
  (if negative then ['-'] else []) ++ size.write plain

end DocStore.Binary64
