import JavaDiagnostics.Classification
import JavaDiagnostics.Diagnostic
import JavaDiagnostics.Json.Decode
import JavaDiagnostics.Json.Value
import JavaDiagnostics.Severity.Extent

set_option autoImplicit false

namespace JavaDiagnostics

open Json (Document Value)

namespace Code

def toJson (code : Code) : Value := .ofNat code.bits.toNat
def ofJson? (document : Document) : Option Code := document.word?.map Code.mk

end Code

namespace Severity

def toJson (severity : Severity) : Value := .ofNat severity.bits.toNat
def ofJson? (document : Document) : Option Severity := document.word?.map Severity.mk

end Severity

namespace Level

def toJson (level : Level) : Value := .text level.name
def ofJson? (document : Document) : Option Level := document.oneOf? all name

end Level

namespace Category

def toJson (category : Category) : Value := .text category.name
def ofJson? (document : Document) : Option Category := document.oneOf? all name

end Category

namespace Irritant

def toJson (irritant : Irritant) : Value := .text irritant.name
def ofJson? (document : Document) : Option Irritant := document.oneOf? all name

end Irritant

namespace Visibility

def toJson (visibility : Visibility) : Value := .text visibility.name
def ofJson? (document : Document) : Option Visibility := document.oneOf? all name

end Visibility

namespace TagDescription

def toJson (mode : TagDescription) : Value := .text mode.name
def ofJson? (document : Document) : Option TagDescription := document.oneOf? all name

end TagDescription

namespace JavaLevel

def toJson (level : JavaLevel) : Value := .ofNat level.major
def ofJson? (document : Document) : Option JavaLevel := (document.natural? wordBound).map JavaLevel.mk

end JavaLevel

namespace Extent

def toJson (extent : Extent) : Value := .text extent.name
def ofJson? (document : Document) : Option Extent := document.oneOf? all name

end Extent

namespace Position

def toJson (position : Position) : Value :=
  .object [("line", .ofNat position.line), ("column", .ofNat position.column)]

def ofJson? (document : Document) : Option Position :=
  match document.record? ["line", "column"] with
  | some [some line, some column] => do return ⟨← line.offset?, ← column.offset?⟩
  | _ => none

end Position

namespace Span

def toJson (span : Span) : Value := .object [("start", .ofNat span.start), ("end", .ofNat span.stop)]

def ofJson? (document : Document) : Option Span :=
  match document.record? ["start", "end"] with
  | some [some start, some stop] => do return ⟨← start.offset?, ← stop.offset?⟩
  | _ => none

end Span

namespace Diagnostic

def fieldNames : List String :=
  ["id", "severity", "category", "arguments", "message_arguments", "message", "start", "end", "line",
   "column", "file_name", "mandatory"]

def toJson (diagnostic : Diagnostic) : Value :=
  let file := match diagnostic.file with
    | some name => [("file_name", Value.text name)]
    | none => []
  .object
    ([("id", diagnostic.code.toJson), ("severity", diagnostic.severity.toJson),
      ("category", diagnostic.category.toJson),
      ("arguments", .array (diagnostic.arguments.map .text)),
      ("message_arguments", .array (diagnostic.messageArguments.map .text)),
      ("message", .text diagnostic.message), ("start", .ofNat diagnostic.span.start),
      ("end", .ofNat diagnostic.span.stop), ("line", .ofNat diagnostic.position.line),
      ("column", .ofNat diagnostic.position.column)]
      ++ file ++ [("mandatory", .bool diagnostic.mandatory)])

def ofJson? (document : Document) : Option Diagnostic :=
  match document.record? fieldNames with
  | some [some code, some severity, some category, some arguments, some messageArguments, some message,
      some start, some stop, some line, some column, file, some mandatory] => do
      return {
        code := ← Code.ofJson? code
        severity := ← Severity.ofJson? severity
        category := ← Category.ofJson? category
        arguments := ← arguments.strings?
        messageArguments := ← messageArguments.strings?
        message := ← message.string?
        span := ⟨← start.offset?, ← stop.offset?⟩
        position := ⟨← line.offset?, ← column.offset?⟩
        file := ← (file.getD .null).optional? Document.string?
        mandatory := ← mandatory.flag? }
  | _ => none

end Diagnostic

namespace Classification

def toJson (classification : Classification) : Value :=
  .object
    [("id", classification.code.toJson),
     ("irritant", (classification.irritant.map Irritant.toJson).getD .null),
     ("severity", classification.severity.toJson), ("category", classification.category.toJson)]

end Classification

end JavaDiagnostics
