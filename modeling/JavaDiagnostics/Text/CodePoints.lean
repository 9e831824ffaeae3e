/-!
Sets of characters, given as ascending inclusive ranges of code points: the form in which character
properties are published.
-/

set_option autoImplicit false

namespace JavaDiagnostics.Text

abbrev CodePoints := List (Nat × Nat)

-- The ranges ascend, so the search ends at the first one that begins past the code point.
def CodePoints.has (n : Nat) : CodePoints → Bool
  | [] => false
  | (low, high) :: rest => if n < low then false else if n ≤ high then true else has n rest

end JavaDiagnostics.Text
