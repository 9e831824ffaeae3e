import JavaDiagnostics.Irritant

set_option autoImplicit false

namespace JavaDiagnostics

inductive Rule where
  /-- By the level of its irritant; a fatal error if it has none. -/
  | configured
  /-- Code too large for a class file: always fatal, and nothing is compiled further. -/
  | oversized
  /-- A warning under all options. -/
  | alwaysWarning
  /-- A doc comment reference that cannot be resolved. -/
  | reference
  /-- A doc comment reference to something deprecated. -/
  | deprecatedReference
  /-- A doc comment reference to something that is not visible. -/
  | hiddenReference
  /-- A return tag without text. -/
  | emptyReturnTag
  /-- Another tag without text. -/
  | tagDescription
  /-- The underscore as a name: only a warning before it became a keyword. -/
  | underscore
  /-- A failure of the compiler itself. -/
  | internalError
deriving DecidableEq, Repr

structure Entry where
  code : Code
  name : String
  template : String
  irritant : Option Irritant
  rule : Rule
deriving DecidableEq, Repr

namespace Entry

def plain (code : Code) (name template : String) : Entry := ⟨code, name, template, none, .configured⟩

def governed (irritant : Irritant) (code : Code) (name template : String) : Entry :=
  ⟨code, name, template, some irritant, .configured⟩

def ruled (rule : Rule) (code : Code) (name template : String) : Entry :=
  ⟨code, name, template, none, rule⟩

end Entry

end JavaDiagnostics
