import JavaDiagnostics.Catalog.Comments
import JavaDiagnostics.Catalog.Declarations
import JavaDiagnostics.Catalog.Features
import JavaDiagnostics.Catalog.Statements
import JavaDiagnostics.Catalog.Symbols

/-!
The catalog of every problem that can be raised, looked up by code and by name. A code outside the
catalog is still a problem: it has no name and no message, and is governed by the irritant of doc
comments if it belongs to them.
-/

set_option autoImplicit false

namespace JavaDiagnostics

namespace Catalog

def entries : List Entry :=
  types ++ variableEntries ++ fields ++ shadowing ++ methods ++ constructors ++ statements ++
    parsing ++ access ++ declarations ++ imports ++ locals ++ inheritance ++ limits ++
    identifiers ++ flow ++ javadoc ++ generics ++ annotations ++ corruption ++ boxing ++
    switches ++ variableArity ++ genericJavadoc ++ resources ++ nullness ++ lambdas ++
    lint ++ removal

def find? (code : Code) : Option Entry := entries.find? fun entry => entry.code = code

def byName? (name : String) : Option Entry := entries.find? fun entry => entry.name == name

end Catalog

namespace Code

def entry? (code : Code) : Option Entry := Catalog.find? code

def name? (code : Code) : Option String := code.entry?.map (·.name)

def template? (code : Code) : Option String := code.entry?.map (·.template)

def rule (code : Code) : Rule := (code.entry?.map (·.rule)).getD .configured

-- The irritant that governs a problem. Doc comment problems without one of their own have the irritant
-- of invalid doc comments; with no irritant at all a problem cannot be configured.
def irritant? (code : Code) : Option Irritant :=
  match code.entry?.bind (·.irritant) with
  | some irritant => some irritant
  | none => if code.belongsTo .javadoc then some .invalidJavadoc else none

def ofName? (name : String) : Option Code := (Catalog.byName? name).map (·.code)

def label (code : Code) : String := code.name?.getD ("#" ++ Text.Numeral.hexWord code.bits)

end Code

def Irritant.codes (irritant : Irritant) : List Code :=
  (Catalog.entries.map (·.code)).filter fun code => code.irritant? = some irritant

end JavaDiagnostics
