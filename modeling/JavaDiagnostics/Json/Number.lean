import JavaDiagnostics.Decimal.Shortest
import JavaDiagnostics.Json.Document

/-!
The value of a JSON number: a whole number of 64 bits where it is written as one, otherwise a binary
floating point number. Such a number is made of as many leading digits as a 64-bit number holds, which
are rounded once, and of a power of ten.
-/

set_option autoImplicit false

namespace JavaDiagnostics.Json

inductive Number where
  | natural (n : Nat)
  | negative (n : Nat)
  | binary (minus : Bool) (x : Binary64)
deriving DecidableEq, Repr

namespace Number

def wordBound : Nat := Nat.pow 2 64

def digitValue (c : Char) : Nat := c.toNat - 48

def leading : Nat → List Char → Nat × List Char
  | taken, [] => (taken, [])
  | taken, c :: rest =>
      let next := taken * 10 + digitValue c
      if next < wordBound then leading next rest else (taken, c :: rest)

-- A written exponent of more than 31 bits counts as endless.
def exponentValue (digits : List Char) : Option Nat :=
  let value := digits.foldl (fun n c => n * 10 + digitValue c) 0
  if value < Nat.pow 2 31 then some value else none

def clampExponent (e : Int) : Int := max (-0x80000000) (min 0x7FFFFFFF e)

def binary? (numeral : Numeral) : Option Binary64 :=
  let (taken, left) := leading 0 numeral.whole
  let (significand, unread) := leading taken numeral.fraction
  let places : Int := (left.length : Int) - (numeral.fraction.length - unread.length : Nat)
  let exponent? : Option Int := match numeral.exponent with
    | none => some places
    | some (minus, digits) =>
        (exponentValue digits).map fun e => clampExponent (if minus then places - e else places + e)
  match exponent?, numeral.exponent with
  | some exponent, _ => (Binary64.ofNat significand).bind (·.shift exponent)
  | none, some (false, _) => if significand = 0 then some Binary64.zero else none
  | none, _ => some Binary64.zero

def ofNumeral? (numeral : Numeral) : Option Number :=
  let (n, left) := leading 0 numeral.whole
  if numeral.fraction.isEmpty && numeral.exponent.isNone && left.isEmpty then
    if numeral.negative = false then some (.natural n)
    else if n = 0 ∨ n > Nat.pow 2 63 then (Binary64.ofNat n).map (.binary true)
    else some (.negative n)
  else (binary? numeral).map (.binary numeral.negative)

def layout : Decimal.Layout := ⟨-5, 15⟩

def write : Number → List Char
  | natural n => Text.Numeral.decimalChars n
  | negative n => '-' :: Text.Numeral.decimalChars n
  | binary minus x =>
      let body := if x.significand = 0 then ['0', '.', '0'] else x.shortest.write layout
      if minus then '-' :: body else body

end Number

end JavaDiagnostics.Json
