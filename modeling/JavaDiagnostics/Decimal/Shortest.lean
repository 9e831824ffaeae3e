import JavaDiagnostics.Decimal.Binary64
import JavaDiagnostics.Text.Numeral

/-!
The shortest decimal that reads back as a given binary number: of the grids of one, two, … decimal
digits the first that meets the interval of reals rounding to the number, and on it the point nearest
to the number.
-/

set_option autoImplicit false

namespace JavaDiagnostics

-- The value is `coefficient * 10 ^ exponent`.
structure Decimal where
  coefficient : Nat
  exponent : Int
deriving DecidableEq, Repr

namespace Binary64

-- Four times the number and the ends of its interval, over a common unit of `2 ^ (exponent - 2)`. The
-- gap below a power of two is half as wide.
def interval (x : Binary64) : Nat × Nat × Nat :=
  let middle := 4 * x.significand
  let bottom := Nat.pow 2 (precision - 1)
  let low := if x.significand = bottom ∧ lowestExponent < x.exponent then middle - 1 else middle - 2
  (low, middle, middle + 2)

-- The ends belong to the interval when the significand is even.
def holds (x : Binary64) (candidate : Decimal) : Bool :=
  let (low, _, high) := x.interval
  let side (n : Nat) := scaled (n * Nat.pow 10 (-candidate.exponent).toNat) (x.exponent - 2)
  let point := scaled (candidate.coefficient * Nat.pow 10 candidate.exponent.toNat) (2 - x.exponent)
  if x.significand % 2 = 0 then side low ≤ point && point ≤ side high
  else side low < point && point < side high

-- How many digits stand before the point, negative for zeros after it.
def magnitude (x : Binary64) : Int :=
  let wide := scaled (x.significand * Nat.pow 10 400) x.exponent / scaled 1 (-x.exponent)
  ((Text.Numeral.decimalChars wide).length : Int) - 400

def around (x : Binary64) (exponent : Int) : List Decimal :=
  let num := scaled (x.significand * Nat.pow 10 (-exponent).toNat) x.exponent
  let den := scaled (Nat.pow 10 exponent.toNat) (-x.exponent)
  let floor : Decimal := ⟨num / den, exponent⟩
  let ceiling : Decimal := ⟨num / den + 1, exponent⟩
  if roundDiv num den = num / den then [floor, ceiling] else [ceiling, floor]

def shortest (x : Binary64) : Decimal :=
  let found := (List.range 17).findSome? fun digits =>
    (x.around (x.magnitude - (digits + 1 : Nat))).find? x.holds
  found.getD ⟨x.significand, x.exponent⟩

end Binary64

namespace Decimal

-- How a decimal is laid out: positional while the exponent of its first digit lies within these
-- bounds, otherwise with a signed exponent.
structure Layout where
  lowest : Int
  highest : Int

def zeros (n : Int) : List Char := List.replicate n.toNat '0'

def stripZeros (digits : List Char) : List Char := (digits.reverse.dropWhile (· == '0')).reverse

def write (layout : Layout) (d : Decimal) : List Char :=
  let all := Text.Numeral.decimalChars d.coefficient
  let point : Int := all.length + d.exponent
  let digits := stripZeros all
  let first := point - 1
  if layout.lowest ≤ first ∧ first ≤ layout.highest then
    if point ≤ 0 then '0' :: '.' :: zeros (-point) ++ digits
    else if point < digits.length then
      digits.take point.toNat ++ '.' :: digits.drop point.toNat
    else digits ++ zeros (point - digits.length) ++ ['.', '0']
  else
    let tail := match digits.drop 1 with
      | [] => []
      | rest => '.' :: rest
    digits.take 1 ++ tail ++ 'e' :: (if first < 0 then '-' else '+')
      :: Text.Numeral.decimalChars first.natAbs

end Decimal

end JavaDiagnostics
