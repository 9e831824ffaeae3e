import JavaDiagnostics.Encoding
import JavaDiagnostics.Unit

/-!
Diagnostics for people and for programs: as text, perhaps with the line of the source and carets below
what is meant, as JSON, or on one line.
-/

set_option autoImplicit false

namespace JavaDiagnostics

inductive Layout where
  | text
  | json
  | compact
deriving DecidableEq, Repr

namespace Layout

def name : Layout → String
  | text => "text"
  | json => "json"
  | compact => "compact"

def read (name : String) : Option Layout := [text, json, compact].find? fun layout => layout.name == name

def refusal (name : String) : String := "unknown format '" ++ name ++ "'"

end Layout

structure Presentation where
  layout : Layout
  showCode : Bool
  showCategory : Bool
deriving DecidableEq, Repr

namespace Presentation

def plain (layout : Layout) : Presentation := ⟨layout, true, false⟩

-- A line number takes at least this much room.
def numberWidth : Nat := 4

def gutter (line : Nat) : List Char :=
  let digits := Text.Numeral.decimalChars line
  List.replicate (numberWidth - digits.length) ' ' ++ digits ++ [' ', '|', ' ']

def blankGutter : List Char := List.replicate numberWidth ' ' ++ [' ', '|', ' ']

def lineStop (unit : SourceUnit) (line : Nat) : Nat :=
  unit.lines.ends[line - 1]?.getD unit.text.length

def lineText (unit : SourceUnit) (line : Nat) : List Char :=
  let whole := unit.slice ⟨unit.lines.lineStart line, lineStop unit line - 1⟩
  (whole.reverse.dropWhile fun c => c == '\r' || c == '\n').reverse

def caretCount (unit : SourceUnit) (diagnostic : Diagnostic) : Nat :=
  max 1 (min diagnostic.span.stop (lineStop unit diagnostic.position.line - 1) + 1 - diagnostic.span.start)

def quotation (unit : SourceUnit) (diagnostic : Diagnostic) : String :=
  let line := diagnostic.position.line
  String.ofList
    (gutter line ++ lineText unit line ++ '\n' :: blankGutter
      ++ List.replicate (diagnostic.position.column - 1) ' '
      ++ List.replicate (caretCount unit diagnostic) '^' ++ ['\n'])

def heading (presentation : Presentation) (diagnostic : Diagnostic) : String :=
  let code := if presentation.showCode then " " ++ diagnostic.tag else ""
  let category := if presentation.showCategory then " (" ++ diagnostic.category.label ++ ")" else ""
  diagnostic.severity.level.name ++ ": " ++ diagnostic.message ++ code ++ category ++ "\n --> "
    ++ diagnostic.location ++ "\n"

def compactLine (presentation : Presentation) (diagnostic : Diagnostic) : String :=
  let code := if presentation.showCode then diagnostic.tag ++ " " else ""
  diagnostic.location ++ ": " ++ diagnostic.severity.level.name ++ ": " ++ code ++ diagnostic.message

def present (presentation : Presentation) (diagnostic : Diagnostic) (unit : Option SourceUnit) :
    String :=
  match presentation.layout with
  | .text =>
      presentation.heading diagnostic ++
        match unit with
        | some unit => quotation unit diagnostic
        | none => ""
  | .json => diagnostic.toJson.indented
  | .compact => presentation.compactLine diagnostic

def presentAll (presentation : Presentation) (diagnostics : List Diagnostic) : String :=
  match presentation.layout with
  | .json => (Json.Value.array (diagnostics.map Diagnostic.toJson)).indented
  | _ => "\n".intercalate (diagnostics.map fun diagnostic => presentation.present diagnostic none)

end Presentation

end JavaDiagnostics
