/-!
Finite binary floating point numbers of 64 bits, without sign, as exact values. An operation gives the
representable number nearest to the exact result, of two equally near the one with an even significand,
and nothing if the result is too large.
-/

set_option autoImplicit false

namespace JavaDiagnostics

-- The value is `significand * 2 ^ exponent`.
structure Binary64 where
  significand : Nat
  exponent : Int
deriving DecidableEq, Repr

namespace Binary64

def zero : Binary64 := ⟨0, -1074⟩

def scaled (n : Nat) (exponent : Int) : Nat := n * Nat.pow 2 exponent.toNat

-- The quotient rounded to the nearest number, a half to the even one.
def roundDiv (num den : Nat) : Nat :=
  let quotient := num / den
  let double := 2 * (num % den)
  if double > den ∨ (double = den ∧ quotient % 2 = 1) then quotient + 1 else quotient

-- The exponent of the highest power of two that is not above `num / den`.
def topExponent (num den : Nat) : Int :=
  let guess : Int := (num.log2 : Int) - (den.log2 : Int)
  if scaled den guess ≤ scaled num (-guess) then guess else guess - 1

def precision : Nat := 53

def lowestExponent : Int := -1074
def highestExponent : Int := 971

-- A significand that rounding has carried into the next power of two.
def carried (x : Binary64) : Binary64 :=
  if x.significand < Nat.pow 2 precision then x else ⟨x.significand / 2, x.exponent + 1⟩

def nearest (num den : Nat) : Option Binary64 :=
  if num = 0 ∨ den = 0 then some zero
  else
    let exponent := max (topExponent num den - (precision - 1 : Nat)) lowestExponent
    let significand := roundDiv (scaled num (-exponent)) (scaled den exponent)
    let x := carried ⟨significand, exponent⟩
    if highestExponent < x.exponent then none else some x

def ofNat (n : Nat) : Option Binary64 := nearest n 1

def times (a b : Binary64) : Option Binary64 :=
  let exponent := a.exponent + b.exponent
  nearest (scaled (a.significand * b.significand) exponent) (scaled 1 (-exponent))

def dividedBy (a b : Binary64) : Option Binary64 :=
  let exponent := a.exponent - b.exponent
  nearest (scaled a.significand exponent) (scaled b.significand (-exponent))

def maxPower : Nat := 308

def powerOfTen (k : Nat) : Option Binary64 := nearest (Nat.pow 10 k) 1

def shrink (x : Binary64) : Nat → Option Binary64
  | 0 => some x
  | steps + 1 =>
      if x.significand = 0 then some x
      else ((powerOfTen maxPower).bind x.dividedBy).bind fun smaller => smaller.shrink steps

-- The number times a power of ten. The power is rounded before it is used, and a divisor too large for
-- one power is taken in steps.
def shift (x : Binary64) (exponent : Int) : Option Binary64 :=
  let steps := (exponent.natAbs - 1) / maxPower
  let remaining := powerOfTen (exponent.natAbs - steps * maxPower)
  if x.significand = 0 then some x
  else if exponent < 0 then (x.shrink steps).bind fun y => remaining.bind y.dividedBy
  else if steps = 0 then remaining.bind x.times
  else none

end Binary64

end JavaDiagnostics
