import JavaDiagnostics.Category
import JavaDiagnostics.Catalog
import JavaDiagnostics.Severity
import JavaDiagnostics.Source.LineTable

set_option autoImplicit false

namespace JavaDiagnostics

structure Diagnostic where
  code : Code
  severity : Severity
  category : Category
  /-- With full names. -/
  arguments : List String
  /-- With short names, as the message shows them. -/
  messageArguments : List String
  message : String
  span : Span
  position : Position
  file : Option String
  mandatory : Bool
deriving DecidableEq, Repr

namespace Diagnostic

def isError (diagnostic : Diagnostic) : Bool := diagnostic.severity.isError
def isWarning (diagnostic : Diagnostic) : Bool := diagnostic.severity.isWarning
def isInfo (diagnostic : Diagnostic) : Bool := diagnostic.severity.isInfo

def location (diagnostic : Diagnostic) : String :=
  match diagnostic.file with
  | some file => file ++ ":" ++ diagnostic.position.describe
  | none => diagnostic.position.describe

def tag (diagnostic : Diagnostic) : String := "[" ++ diagnostic.code.label ++ "]"

def describe (diagnostic : Diagnostic) : String :=
  diagnostic.location ++ ": " ++ diagnostic.severity.level.name ++ ": " ++ diagnostic.message ++ " "
    ++ diagnostic.tag

end Diagnostic

end JavaDiagnostics
