import JavaDiagnostics.Options.Setting
import JavaDiagnostics.Severity

/-!
The options under which problems are classified and reported. Levels of irritants are kept apart by
whether they were set or hold by default.
-/

set_option autoImplicit false

namespace JavaDiagnostics

structure Options where
  /-- The levels that were set. -/
  chosen : Irritant → Option Level
  flag : Flag → Bool
  threshold : Threshold → Visibility
  conformance : Conformance → JavaLevel
  tagDescription : TagDescription
  annotationName : NullMark → String

namespace Options

def usual : Options where
  chosen _ := none
  flag f := f = .suppressWarnings
  threshold _ := .publicMember
  conformance _ := .usual
  tagDescription := .returnTag
  annotationName
    | .nonNull => "org.eclipse.jdt.annotation.NonNull"
    | .nullable => "org.eclipse.jdt.annotation.Nullable"

def replace {α β : Type} [DecidableEq α] (f : α → β) (a : α) (b : β) : α → β :=
  fun x => if x = a then b else f x

def assign (options : Options) : Assignment → Options
  | .level irritant level => { options with chosen := replace options.chosen irritant (some level) }
  | .flag f on => { options with flag := replace options.flag f on }
  | .threshold t visibility => { options with threshold := replace options.threshold t visibility }
  | .conformance c level => { options with conformance := replace options.conformance c level }
  | .tagDescription mode => { options with tagDescription := mode }
  | .annotationName mark name => { options with annotationName := replace options.annotationName mark name }

def level (options : Options) (irritant : Irritant) : Level :=
  (options.chosen irritant).getD irritant.defaultLevel

def allWarnings : Options :=
  { usual with chosen := fun _ => some Level.warning }
    |>.assign (.flag .docComments true) |>.assign (.flag .invalidTags true)

def strict : Options :=
  { usual with
      chosen := fun irritant => if irritant.defaultLevel = Level.warning then some Level.error else none }
    |>.assign (.flag .fatalOptionalErrors true)

def quiet : Options := { usual with chosen := fun _ => some .ignore }

def severity (options : Options) (irritant : Irritant) : Severity :=
  match options.level irritant with
  | .error =>
      let error : Severity := .error ||| .optional
      if options.flag .fatalOptionalErrors && irritant != .unusedWarningToken then error ||| .fatal
      else error
  | .warning => .warning ||| .optional
  | .info => .info ||| .optional
  | .ignore => .ignore

def source (options : Options) : JavaLevel := options.conformance .source

def lastPart (name : String) : String :=
  String.ofList (name.toList.reverse.takeWhile (· != '.')).reverse

def simpleAnnotationName (options : Options) (mark : NullMark) : String := lastPart (options.annotationName mark)

-- Sets what a key names. A key that names nothing changes nothing.
def apply (options : Options) (key value : String) : Except SettingsError Options :=
  match Setting.ofKey? (Text.trim key) with
  | none => .ok options
  | some setting =>
      match setting.assign? (Text.trim value) with
      | some assignment => .ok (options.assign assignment)
      | none => .error (setting.refusal (Text.trim value))

def ofSettings (settings : List (String × String)) : Except SettingsError Options :=
  settings.foldlM (fun options (key, value) => options.apply key value) usual

def value (options : Options) : Setting → String
  | .level irritant => (options.level irritant).name
  | .flag f => Flag.describe (options.flag f)
  | .threshold t => (options.threshold t).name
  | .conformance c => (options.conformance c).describe
  | .tagDescription => options.tagDescription.name
  | .annotationName mark => options.annotationName mark

def valueOf? (options : Options) (key : String) : Option String :=
  (Setting.ofKey? key).map options.value

def toSettings (options : Options) : List (String × String) :=
  Setting.all.map fun setting => (setting.key, options.value setting)

-- Equal settings, and the same levels set.
instance : BEq Options where
  beq a b :=
    Irritant.all.all (fun irritant => a.chosen irritant == b.chosen irritant) &&
    Flag.all.all (fun f => a.flag f == b.flag f) &&
    Threshold.all.all (fun t => a.threshold t == b.threshold t) &&
    Conformance.all.all (fun c => a.conformance c == b.conformance c) &&
    a.tagDescription == b.tagDescription &&
    NullMark.all.all (fun mark => a.annotationName mark == b.annotationName mark)

end Options

end JavaDiagnostics
