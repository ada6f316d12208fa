namespace DocStore

-- Finite values are `±significand · 2 ^ exponent`, with the greatest significand that fits.
inductive Binary64 where
  | finite (negative : Bool) (significand : Nat) (exponent : Int)
  | infinite (negative : Bool)
  | nan
deriving DecidableEq, Repr, Inhabited

namespace Binary64

def precision : Nat := 53

def leastExponent : Int := -1074

def greatestExponent : Int := 971

-- A quotient rounded to the nearest whole number, a half to the even neighbour.
def roundDiv (num den : Nat) : Nat :=
  let low := num / den
  let twice := 2 * (num % den)
  if twice < den then low
  else if den < twice then low + 1
  else low + low % 2

-- A power, or one if the exponent is below zero. A factor `b ^ e` of any exponent is then a factor
-- `power b e` of the numerator and a factor `power b (-e)` of the denominator.
def power (base : Nat) (e : Int) : Nat :=
  Nat.pow base e.toNat

def quotientBelow (num den : Nat) (e : Int) : Bool :=
  num * power 2 (-e) < den * power 2 e

-- The exponent that gives `num / den` a significand of full precision, if it is in range.
def exponentFor (num den : Nat) : Int :=
  let bits : Int := num.log2 - den.log2
  let exponent := if quotientBelow num den bits then bits - precision else bits - precision + 1
  max leastExponent exponent

def ofRatio (negative : Bool) (num den : Nat) : Binary64 :=
  if num = 0 then .finite negative 0 leastExponent
  else
    let exponent := exponentFor num den
    let significand := roundDiv (num * power 2 (-exponent)) (den * power 2 exponent)
    let (significand, exponent) :=
      if significand = power 2 precision then (power 2 (precision - 1), exponent + 1)
      else (significand, exponent)
    if exponent ≤ greatestExponent then .finite negative significand exponent
    else .infinite negative

-- The value nearest to `± digits · 10 ^ exponent`. Far outside the range the power of ten is not
-- computed: above it the result is infinite, below it zero.
def ofDecimal (negative : Bool) (digits : Nat) (exponent : Int) : Binary64 :=
  if digits = 0 then .finite negative 0 leastExponent
  else if 400 < exponent then .infinite negative
  else if exponent + digits.log2 < -400 then .finite negative 0 leastExponent
  else ofRatio negative (digits * power 10 exponent) (power 10 (-exponent))

def toInt? : Binary64 → Option Int
  | .finite negative significand exponent =>
    let scale := power 2 (-exponent)
    if significand % scale = 0 then
      let size : Int := (significand / scale * power 2 exponent : Nat)
      some (if negative then -size else size)
    else none
  | _ => none

example : ofDecimal false 1 0 = .finite false (2 ^ 52) (-52) := by decide +kernel
example : ofDecimal false 5 (-324) = .finite false 1 (-1074) := by decide +kernel
example : ofDecimal true 1 309 = .infinite true := by decide +kernel

end Binary64

end DocStore
