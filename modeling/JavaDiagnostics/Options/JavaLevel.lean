import JavaDiagnostics.Text.Blank
import JavaDiagnostics.Text.Numeral

/-!
Java language levels, by the number of the release. Levels up to 8 are written behind `1.`.
-/

set_option autoImplicit false

namespace JavaDiagnostics

structure JavaLevel where
  major : Nat
deriving DecidableEq, Repr

namespace JavaLevel

def lastDotted : Nat := 8

def latest : Nat := 25

def wordBound : Nat := Nat.pow 2 32

def generics : JavaLevel := ⟨5⟩

def underscoreKeyword : JavaLevel := ⟨9⟩

def usual : JavaLevel := ⟨8⟩

instance : LT JavaLevel := ⟨fun a b => a.major < b.major⟩
instance (a b : JavaLevel) : Decidable (a < b) := inferInstanceAs (Decidable (a.major < b.major))

def describe (level : JavaLevel) : String :=
  if level.major ≤ lastDotted then "1." ++ Text.Numeral.decimal level.major
  else Text.Numeral.decimal level.major

def readChars (text : List Char) : Option JavaLevel :=
  match text with
  | '1' :: '.' :: minor =>
      match Text.Numeral.read 10 wordBound minor with
      | some n => if 1 ≤ n ∧ n ≤ lastDotted then some ⟨n⟩ else none
      | none => none
  | _ =>
      match Text.Numeral.read 10 wordBound text with
      | some n => if lastDotted < n ∧ n ≤ latest then some ⟨n⟩ else none
      | none => none

def read (text : String) : Option JavaLevel := readChars (Text.trim text).toList

end JavaLevel

end JavaDiagnostics
