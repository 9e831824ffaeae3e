import JavaDiagnostics.Catalog
import JavaDiagnostics.Options

/-!
The severity and the category of a problem under given options. A rule of the catalog comes first, then
the level of the irritant; a problem that has neither is a fatal error.
-/

set_option autoImplicit false

namespace JavaDiagnostics

namespace Options

def ruled? (options : Options) : Rule → Option Severity
  | .configured => none
  | .oversized => some (.error ||| .abort ||| .fatal)
  | .alwaysWarning => some .warning
  | .reference => if options.flag .invalidTags then none else some .ignore
  | .deprecatedReference =>
      if options.flag .invalidTags && options.flag .invalidTagsDeprecated then none else some .ignore
  | .hiddenReference =>
      if options.flag .invalidTags && options.flag .invalidTagsHidden then none else some .ignore
  | .emptyReturnTag => if options.tagDescription = .noTag then some .ignore else none
  | .tagDescription => if options.tagDescription = .allTags then none else some .ignore
  | .underscore => if options.source < .underscoreKeyword then some .warning else none
  | .internalError => some .internalError

def configured (options : Options) (code : Code) : Severity :=
  match code.irritant? with
  | some irritant =>
      if code.belongsTo .javadoc && !options.flag .docComments then .ignore
      else options.severity irritant
  | none => .error ||| .fatal

def severityOf (options : Options) (code : Code) : Severity :=
  (options.ruled? code.rule).getD (options.configured code)

end Options

def Code.category (code : Code) (severity : Severity) : Category :=
  if severity.isFatal then .ofCode code
  else (code.irritant?.bind (·.category)).getD (.ofCode code)

structure Classification where
  code : Code
  irritant : Option Irritant
  severity : Severity
  category : Category
deriving DecidableEq, Repr

def Options.classify (options : Options) (code : Code) : Classification :=
  let severity := options.severityOf code
  ⟨code, code.irritant?, severity, code.category severity⟩

end JavaDiagnostics
