import JavaDiagnostics.Severity

/-!
How much of a compilation is given up after a fatal problem, from the whole down to one method.
-/

set_option autoImplicit false

namespace JavaDiagnostics

inductive Extent where
  | compilation
  | unit
  | type
  | method
deriving DecidableEq, Repr

namespace Extent

def all : List Extent := [compilation, unit, type, method]

-- Wider extents come first.
def rank : Extent → Nat
  | compilation => 0
  | unit => 1
  | type => 2
  | method => 3

def wider (a b : Extent) : Extent := if a.rank ≤ b.rank then a else b

def severity : Extent → Severity
  | compilation => .abortCompilation
  | unit => .abortUnit
  | type => .abortType
  | method => .abortMethod

-- The extent that a severity names, when it has exactly one abort bit.
def ofSeverity? (s : Severity) : Option Extent := all.find? fun extent => extent.severity = s.abortPart

def name : Extent → String
  | compilation => "Compilation"
  | unit => "CompilationUnit"
  | type => "Type"
  | method => "Method"

def label : Extent → String
  | compilation => "compilation"
  | unit => "compilation unit"
  | type => "type"
  | method => "method"

end Extent

end JavaDiagnostics
