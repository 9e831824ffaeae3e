import JavaDiagnostics.Irritant
import JavaDiagnostics.Options.JavaLevel
import JavaDiagnostics.Options.TagDescription
import JavaDiagnostics.Options.Visibility

/-!
Settings: what can be set, the key of each, and the values it takes. A setting with a value of its own
kind is an assignment; a text that is no value of the setting has a cause of failure by the kind.
-/

set_option autoImplicit false

namespace JavaDiagnostics

inductive Flag where
  | docComments
  | invalidTags
  | invalidTagsDeprecated
  | invalidTagsHidden
  | commentsOverriding
  | tagsOverriding
  | fatalOptionalErrors
  | suppressWarnings
  | suppressOptionalErrors
  | nullAnalysis
deriving DecidableEq, Repr

inductive Threshold where
  | invalidTags
  | missingComments
  | missingTags
deriving DecidableEq, Repr

inductive Conformance where
  | source
  | compliance
deriving DecidableEq, Repr

inductive NullMark where
  | nonNull
  | nullable
deriving DecidableEq, Repr

inductive Setting where
  | level (irritant : Irritant)
  | flag (flag : Flag)
  | threshold (threshold : Threshold)
  | conformance (conformance : Conformance)
  | tagDescription
  | annotationName (mark : NullMark)
deriving DecidableEq, Repr

inductive Assignment where
  | level (irritant : Irritant) (level : Level)
  | flag (flag : Flag) (on : Bool)
  | threshold (threshold : Threshold) (visibility : Visibility)
  | conformance (conformance : Conformance) (level : JavaLevel)
  | tagDescription (mode : TagDescription)
  | annotationName (mark : NullMark) (name : String)
deriving DecidableEq, Repr

inductive SettingsError where
  | invalidSeverity (key value : String)
  | invalidVisibility (key value : String)
  | invalidLevel (key value : String)
  | invalidValue (key value : String)
  /-- A line of settings without a key. -/
  | malformed (line : Nat) (content : String)
  | notJson
  | missingFile
  | notText
deriving DecidableEq, Repr

def missingFileReason : String := "No such file or directory (os error 2)"
def notTextReason : String := "stream did not contain valid UTF-8"

def SettingsError.message : SettingsError → String
  | invalidSeverity key value => "Invalid severity '" ++ value ++ "' for " ++ key
  | invalidVisibility key value => "Invalid visibility '" ++ value ++ "' for " ++ key
  | invalidLevel key value => "Invalid Java level '" ++ value ++ "' for " ++ key
  | invalidValue key value => "Invalid value '" ++ value ++ "' for " ++ key
  | malformed line content => "Malformed settings line " ++ Text.Numeral.decimal line ++ ": " ++ content
  | notJson => "JSON settings error: not an object of settings"
  | missingFile => "Cannot read settings: " ++ missingFileReason
  | notText => "Cannot read settings: " ++ notTextReason

def SettingsError.reason : SettingsError → Option String
  | missingFile => some missingFileReason
  | notText => some notTextReason
  | _ => none

def Flag.all : List Flag :=
  [docComments, invalidTags, invalidTagsDeprecated, invalidTagsHidden, commentsOverriding,
   tagsOverriding, fatalOptionalErrors, suppressWarnings, suppressOptionalErrors, nullAnalysis]

def Flag.key : Flag → String
  | docComments => "org.eclipse.jdt.core.compiler.doc.comment.support"
  | invalidTags => Irritant.problemKey "invalidJavadocTags"
  | invalidTagsDeprecated => Irritant.problemKey "invalidJavadocTagsDeprecatedRef"
  | invalidTagsHidden => Irritant.problemKey "invalidJavadocTagsNotVisibleRef"
  | commentsOverriding => Irritant.problemKey "missingJavadocCommentsOverriding"
  | tagsOverriding => Irritant.problemKey "missingJavadocTagsOverriding"
  | fatalOptionalErrors => Irritant.problemKey "fatalOptionalError"
  | suppressWarnings => Irritant.problemKey "suppressWarnings"
  | suppressOptionalErrors => Irritant.problemKey "suppressOptionalErrors"
  | nullAnalysis => "org.eclipse.jdt.core.compiler.annotation.nullanalysis"

def Flag.describe (on : Bool) : String := if on then "enabled" else "disabled"

def Flag.read (text : String) : Option Bool :=
  if text == "enabled" || text == "true" then some true
  else if text == "disabled" || text == "false" then some false
  else none

def Threshold.all : List Threshold := [invalidTags, missingComments, missingTags]

def Threshold.key : Threshold → String
  | invalidTags => Irritant.problemKey "invalidJavadocTagsVisibility"
  | missingComments => Irritant.problemKey "missingJavadocCommentsVisibility"
  | missingTags => Irritant.problemKey "missingJavadocTagsVisibility"

def Conformance.all : List Conformance := [source, compliance]

def Conformance.key : Conformance → String
  | source => "org.eclipse.jdt.core.compiler.source"
  | compliance => "org.eclipse.jdt.core.compiler.compliance"

def NullMark.all : List NullMark := [nonNull, nullable]

def NullMark.key : NullMark → String
  | nonNull => "org.eclipse.jdt.core.compiler.annotation.nonnull"
  | nullable => "org.eclipse.jdt.core.compiler.annotation.nullable"

namespace Setting

def key : Setting → String
  | level irritant => irritant.key
  | flag f => f.key
  | threshold t => t.key
  | conformance c => c.key
  | tagDescription => Irritant.problemKey "missingJavadocTagDescription"
  | annotationName mark => mark.key

def all : List Setting :=
  Irritant.all.map level ++ Flag.all.map flag ++ Threshold.all.map threshold ++
    Conformance.all.map conformance ++ [tagDescription] ++ NullMark.all.map annotationName

def ofKey? (key : String) : Option Setting := all.find? fun setting => setting.key == key

def assign? (setting : Setting) (text : String) : Option Assignment :=
  match setting with
  | level irritant => (Level.read text).map (.level irritant)
  | flag f => (Flag.read text).map (.flag f)
  | threshold t => (Visibility.read text).map (.threshold t)
  | conformance c => (JavaLevel.read text).map (.conformance c)
  | tagDescription => (TagDescription.read text).map .tagDescription
  | annotationName mark => some (.annotationName mark text)

def refusal (setting : Setting) (text : String) : SettingsError :=
  match setting with
  | level _ => .invalidSeverity setting.key text
  | threshold _ => .invalidVisibility setting.key text
  | conformance _ => .invalidLevel setting.key text
  | _ => .invalidValue setting.key text

end Setting

end JavaDiagnostics
