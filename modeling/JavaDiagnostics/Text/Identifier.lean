import JavaDiagnostics.Text.Identifier.Part
import JavaDiagnostics.Text.Identifier.Start

/-!
Java identifiers: Unicode identifiers that may also hold a dollar sign anywhere and begin with an
underscore. A character that may begin one may also continue one.
-/

set_option autoImplicit false

namespace JavaDiagnostics.Text.Identifier

def canStart (c : Char) : Bool := starts.has c.toNat || c == '_' || c == '$'

def canContinue (c : Char) : Bool := canStart c || innerOnly.has c.toNat

theorem canContinue_of_canStart (c : Char) (start : canStart c = true) : canContinue c = true := by
  simp [canContinue, start]

end JavaDiagnostics.Text.Identifier
