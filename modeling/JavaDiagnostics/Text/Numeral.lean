/-!
Unsigned numerals. Reading accepts one plus sign, leading zeros and letters of either case, and
refuses a value past its bound. Writing has lower case letters and no leading zeros; the fixed form
fills up with zeros to a given width.
-/

set_option autoImplicit false

namespace JavaDiagnostics.Text.Numeral

def digit? (base : Nat) (c : Char) : Option Nat :=
  let n := c.toNat
  let value :=
    if 48 ≤ n ∧ n ≤ 57 then n - 48
    else if 97 ≤ n ∧ n ≤ 122 then n - 87
    else if 65 ≤ n ∧ n ≤ 90 then n - 55
    else base
  if value < base then some value else none

def digits? (base : Nat) : List Char → Nat → Option Nat
  | [], value => some value
  | c :: rest, value =>
      match digit? base c with
      | none => none
      | some d => digits? base rest (value * base + d)

def read (base bound : Nat) (text : List Char) : Option Nat :=
  let body := match text with
    | '+' :: rest => rest
    | _ => text
  match body with
  | [] => none
  | _ => (digits? base body 0).filter (· < bound)

def digitChar (d : Nat) : Char :=
  if d < 10 then Char.ofNat (d + 48) else Char.ofNat (d + 87)

def fixed (base : Nat) : Nat → Nat → List Char
  | 0, _ => []
  | width + 1, n => fixed base width (n / base) ++ [digitChar (n % base)]

def decimalChars (n : Nat) : List Char :=
  if n < 10 then [digitChar n] else decimalChars (n / 10) ++ [digitChar (n % 10)]
termination_by n
decreasing_by omega

def decimal (n : Nat) : String := String.ofList (decimalChars n)

def hexWord (word : UInt32) : String := String.ofList ('0' :: 'x' :: fixed 16 8 word.toNat)

def hexChars (n : Nat) : List Char :=
  if n < 16 then [digitChar n] else hexChars (n / 16) ++ [digitChar (n % 16)]
termination_by n
decreasing_by omega

end JavaDiagnostics.Text.Numeral
