import JavaDiagnostics.Command.Request
import JavaDiagnostics.Encoding
import JavaDiagnostics.Message
import JavaDiagnostics.Options.Reading
import JavaDiagnostics.Text.Grid
import JavaDiagnostics.Text.Split

set_option autoImplicit false

namespace JavaDiagnostics.Command

inductive Failure where
  | unknownProblem (text : String)
  | noTemplate (text : String)
  | unknownCategory (text : String)
  | unknownIrritant (text : String)
  | settings (path : String) (cause : SettingsError)
deriving DecidableEq, Repr

namespace Failure

def indent (width : Nat) (text : String) : String :=
  String.ofList
    (List.intercalate ('\n' :: List.replicate width ' ') (Text.fields '\n' text.toList))

def causes : List String → String
  | [] => ""
  | [cause] => "\n\nCaused by:\n    " ++ indent 4 cause
  | several =>
      let numbered := several.zipIdx.map fun (cause, n) =>
        "\n    " ++ Text.Numeral.decimal n ++ ": " ++ indent 7 cause
      "\n\nCaused by:" ++ String.join numbered

def message : Failure → String
  | unknownProblem text => "Unknown problem '" ++ text ++ "'"
  | noTemplate text => "No message template for '" ++ text ++ "'"
  | unknownCategory text => "Unknown category '" ++ text ++ "'"
  | unknownIrritant text => "Unknown irritant '" ++ text ++ "'"
  | settings path cause =>
      "Failed to load settings from '" ++ path ++ "'" ++ causes (cause.message :: cause.reason.toList)

end Failure

def readCode (text : String) : Except Failure Code :=
  match Code.ofName? text with
  | some code => .ok code
  | none =>
      let number := match text.toList with
        | '0' :: 'x' :: digits => Text.Numeral.read 16 (Nat.pow 2 32) digits
        | digits => Text.Numeral.read 10 (Nat.pow 2 32) digits
      match number with
      | some n => .ok ⟨UInt32.ofNat n⟩
      | none => .error (.unknownProblem text)

def loadOptions (path : Option String) (content : Option ByteArray) : Except Failure Options :=
  match path with
  | none => .ok .usual
  | some path => (Options.ofFile path content).mapError (.settings path)

def absent : String := "-"

def classificationRow (classification : Classification) : List String :=
  [classification.code.label,
   (classification.irritant.map Irritant.name).getD absent,
   (classification.irritant.map Irritant.key).getD absent,
   classification.severity.describe,
   classification.category.label]

def classifications (options : Options) (problems : List String) (json : Bool) :
    Except Failure String := do
  let found := (← problems.mapM readCode).map options.classify
  if json then return (Json.Value.array (found.map Classification.toJson)).indented
  else
    return Text.Grid.write
      ⟨["Problem", "Irritant", "Option key", "Severity", "Category"], found.map classificationRow⟩

def named {α : Type} (read : String → Option α) (failure : String → Failure) :
    Option String → Except Failure (Option α)
  | none => .ok none
  | some text =>
      match read text with
      | some value => .ok (some value)
      | none => .error (failure text)

def listed (category : Option Category) (irritant : Option Irritant) : List Entry :=
  Catalog.entries.filter fun entry =>
    let found := Options.usual.classify entry.code
    category.all (· = found.category) && (irritant.isNone || irritant = found.irritant)

def entryRow (entry : Entry) : List String :=
  [Text.Numeral.hexWord entry.code.bits, entry.name, (Options.usual.classify entry.code).category.label,
   entry.template]

def listing (category irritant : Option String) : Except Failure String := do
  let category ← named Category.read .unknownCategory category
  let irritant ← named Irritant.read .unknownIrritant irritant
  let entries := listed category irritant
  return Text.Grid.write ⟨["Id", "Name", "Category", "Message"], entries.map entryRow⟩ ++ "\n"
    ++ Text.Numeral.decimal entries.length ++ " problems"

def irritantRow (options : Options) (irritant : Irritant) : List String :=
  [irritant.name, irritant.key, (options.level irritant).name, irritant.token.getD absent]

def levels (options : Options) : String :=
  Text.Grid.write ⟨["Irritant", "Option key", "Level", "Token"], Irritant.all.map (irritantRow options)⟩

def rendering (problem : String) (arguments : List String) : Except Failure String := do
  let code ← readCode problem
  if code.template?.isNone then throw (.noTemplate problem) else return code.message arguments

def Request.answer (content : Option ByteArray) : Request → Except Failure String
  | .classify problems path json => do
      let options ← loadOptions path content
      classifications options problems json
  | .list category irritant => listing category irritant
  | .options path => do return levels (← loadOptions path content)
  | .render problem arguments => rendering problem arguments

structure Result where
  exit : UInt32
  output : String
  complaint : String
deriving DecidableEq, Repr

-- Misuse ends with 2 and a failure with 1.
def Invocation.result (content : Option ByteArray) : Invocation → Result
  | .version => ⟨0, "java-problems 0.1.0\n", ""⟩
  | .misused => ⟨2, "", "usage: java-problems [-v] classify|list|options|render\n"⟩
  | .request r =>
      match r.answer content with
      | .ok text => ⟨0, text ++ "\n", ""⟩
      | .error failure => ⟨1, "", "Error: " ++ failure.message ++ "\n"⟩

def Invocation.settingsPath? : Invocation → Option String
  | .request r => r.settingsPath?
  | _ => none

end JavaDiagnostics.Command
