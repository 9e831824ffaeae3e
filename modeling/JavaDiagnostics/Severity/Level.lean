import JavaDiagnostics.Text.Blank

set_option autoImplicit false

namespace JavaDiagnostics

inductive Level where
  | ignore
  | info
  | warning
  | error
deriving DecidableEq, Repr

namespace Level

def all : List Level := [ignore, info, warning, error]

def rank : Level → Nat
  | ignore => 0
  | info => 1
  | warning => 2
  | error => 3

instance : LE Level := ⟨fun a b => a.rank ≤ b.rank⟩

instance (a b : Level) : Decidable (a ≤ b) := inferInstanceAs (Decidable (a.rank ≤ b.rank))

def name : Level → String
  | ignore => "ignore"
  | info => "info"
  | warning => "warning"
  | error => "error"

def read (text : String) : Option Level := all.find? fun level => level.name == Text.trim text

end Level

end JavaDiagnostics
