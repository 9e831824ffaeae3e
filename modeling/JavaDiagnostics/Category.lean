import JavaDiagnostics.Code
import JavaDiagnostics.Text.Blank
import JavaDiagnostics.Text.Numeral

/-!
The categories under which problems are grouped for people.
-/

set_option autoImplicit false

namespace JavaDiagnostics

inductive Category where
  | unspecified
  | buildPath
  | parsing
  | imports
  | types
  | members
  | internal
  | javadoc
  | codeStyle
  | programmingProblem
  | nameShadowing
  | deprecation
  | unnecessaryCode
  | generics
  | externalization
  | restrictedApi
deriving DecidableEq, Repr

namespace Category

def all : List Category :=
  [unspecified, buildPath, parsing, imports, types, members, internal, javadoc, codeStyle,
   programmingProblem, nameShadowing, deprecation, unnecessaryCode, generics, externalization,
   restrictedApi]

structure Info where
  number : Nat
  name : String
  label : String

def toInfo : Category → Info
  | unspecified => ⟨0, "Unspecified", "Unspecified"⟩
  | buildPath => ⟨10, "BuildPath", "Build Path"⟩
  | parsing => ⟨20, "Syntax", "Syntax"⟩
  | imports => ⟨30, "Import", "Imports"⟩
  | types => ⟨40, "Type", "Types"⟩
  | members => ⟨50, "Member", "Members"⟩
  | internal => ⟨60, "Internal", "Internal"⟩
  | javadoc => ⟨70, "Javadoc", "Javadoc"⟩
  | codeStyle => ⟨80, "CodeStyle", "Code Style"⟩
  | programmingProblem => ⟨90, "PotentialProgrammingProblem", "Potential Programming Problems"⟩
  | nameShadowing => ⟨100, "NameShadowingConflict", "Name Shadowing and Conflicts"⟩
  | deprecation => ⟨110, "Deprecation", "Deprecation"⟩
  | unnecessaryCode => ⟨120, "UnnecessaryCode", "Unnecessary Code"⟩
  | generics => ⟨130, "UncheckedRaw", "Generic Types"⟩
  | externalization => ⟨140, "Nls", "NLS"⟩
  | restrictedApi => ⟨150, "Restriction", "Restricted API"⟩

def number (category : Category) : Nat := category.toInfo.number
def name (category : Category) : String := category.toInfo.name
def label (category : Category) : String := category.toInfo.label

def ofNumber? (n : Nat) : Option Category := all.find? fun category => category.number == n

def read (text : String) : Option Category :=
  let body := Text.trim text
  match Text.Numeral.read 10 (Nat.pow 2 32) body.toList with
  | some n => ofNumber? n
  | none => all.find? fun category => Text.sameLetters category.name body

-- The category that the families of a code give: parsing before imports, imports before types, types
-- before members. Problems of the class path itself stand apart.
def ofCode (code : Code) : Category :=
  if code = .classPathIncomplete ∨ code = .corruptedSignature then buildPath
  else if code.belongsTo .parsing then parsing
  else if code.belongsTo .imports then imports
  else if code.belongsTo .type then types
  else if code.isMember then members
  else internal

end Category

end JavaDiagnostics
