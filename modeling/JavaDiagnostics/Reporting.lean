import JavaDiagnostics.Classification
import JavaDiagnostics.Diagnostic
import JavaDiagnostics.Finding.Rendering
import JavaDiagnostics.Message
import JavaDiagnostics.Severity.Extent
import JavaDiagnostics.Text.Quoted
import JavaDiagnostics.Unit

/-!
Reporting: a problem is classified, left out if it is ignored or suppressed or if the policy drops it,
recorded otherwise, and it aborts the analysis if it is a fatal error. A reporter keeps the text of the
unit that it has last rendered a report for in its scanner.
-/

set_option autoImplicit false

namespace JavaDiagnostics

inductive Policy where
  | proceed
  | stopAtFirst
  /-- Drops every problem but failures of the compiler itself. -/
  | ignoreAll
deriving DecidableEq, Repr

inductive Scope where
  | unit
  | type
  | method
deriving DecidableEq, Repr

def Scope.extent : Scope → Extent
  | unit => .unit
  | type => .type
  | method => .method

structure Context where
  unit : SourceUnit
  scope : Scope
  hasErrors : Bool
  ignoredMandatory : Bool

namespace Context

def opened (unit : SourceUnit) (scope : Scope) : Context := ⟨unit, scope, false, false⟩

def enter (context : Context) (scope : Scope) : Context := { context with scope }

def tagErrors (context : Context) : Context := { context with hasErrors := true }

def tagIgnored (context : Context) : Context := { context with ignoredMandatory := true }

def describe (context : Context) : String :=
  "ReferenceContext \x7b unit: " ++ Text.Quoted.quote context.unit.file ++ ", scope: "
    ++ context.scope.extent.name ++ ", has_errors: " ++ (if context.hasErrors then "true" else "false")
    ++ " \x7d"

end Context

-- The analysis is given up to some extent because of a problem.
structure Abort where
  extent : Extent
  diagnostic : Diagnostic
deriving DecidableEq, Repr

def Abort.describe (abort : Abort) : String :=
  "Aborted " ++ abort.extent.label ++ ": " ++ abort.diagnostic.describe

structure Reporter where
  options : Options
  policy : Policy
  scanner : Scanner
  /-- The unit whose text the scanner holds; an empty text belongs to no unit. -/
  loaded : Option SourceUnit.Identity

structure Outcome where
  context : Option Context
  recorded : Option Diagnostic
  abort : Option Abort

namespace Outcome

def silent (context : Option Context) : Outcome := ⟨context, none, none⟩

end Outcome

namespace Reporter

def new (options : Options) (policy : Policy) : Reporter := ⟨options, policy, .empty, none⟩

-- Points the scanner at the unit of a context, unless it is there already.
def load (reporter : Reporter) (context : Option Context) : Reporter :=
  let wanted := context.map (·.unit.identity)
  if wanted = reporter.loaded then reporter
  else
    let text := (context.map (·.unit.text)).getD []
    { reporter with scanner := .ofText text, loaded := wanted }

-- A problem inside a region that suppresses its irritant. Only optional problems can be suppressed,
-- and errors only where the options allow it.
def suppresses (reporter : Reporter) (context : Context) (code : Code) (severity : Severity)
    (span : Span) : Bool :=
  severity.isOptional && reporter.options.flag .suppressWarnings &&
    (!severity.isError || reporter.options.flag .suppressOptionalErrors) &&
    match code.irritant? with
    | none => false
    | some irritant => irritant != .unusedWarningToken && context.unit.isSuppressed irritant span

def diagnose (description : Description) (severity : Severity) (unit : Option SourceUnit) : Diagnostic where
  code := description.code
  severity
  category := description.code.category severity
  arguments := description.arguments
  messageArguments := description.messageArguments
  message := description.code.message description.messageArguments
  span := description.span
  position := (unit.map (·.position description.span.start)).getD ⟨0, 0⟩
  file := unit.map (·.file)
  mandatory := severity.isMandatory

-- How much a fatal problem gives up: nothing without an abort bit, what a single one names but no less
-- than the scope, and the scope itself if there are several.
def abortExtent? (severity : Severity) (scope : Scope) : Option Extent :=
  if severity.abortPart.bits = 0 then none
  else
    match Extent.ofSeverity? severity with
    | some extent => some (extent.wider scope.extent)
    | none => some scope.extent

def stopExtent? (policy : Policy) (severity : Severity) (scope : Scope) : Option Extent :=
  if policy = .stopAtFirst then some .compilation else abortExtent? severity scope

-- Outside of any context an error ends the compilation, and nothing is recorded.
def adrift (description : Description) (severity : Severity) : Outcome :=
  if severity.isError then ⟨none, none, some ⟨.compilation, diagnose description severity none⟩⟩
  else .silent none

def recordIn (reporter : Reporter) (context : Context) (description : Description)
    (severity : Severity) : Outcome :=
  let diagnostic := diagnose description severity (some context.unit)
  if severity.isError && severity.isFatal then
    let extent? := stopExtent? reporter.policy severity context.scope
    ⟨some context.tagErrors, some diagnostic, extent?.map (⟨·, diagnostic⟩)⟩
  else ⟨some context, some diagnostic, none⟩

def dispatch (reporter : Reporter) (context : Option Context) (description : Description)
    (severity : Severity) : Outcome :=
  match context with
  | none => adrift description severity
  | some context =>
      if reporter.policy = .ignoreAll ∧ severity.contains .internalError = false then
        .silent (some (if severity.isMandatory then context.tagIgnored else context))
      else if reporter.suppresses context description.code severity description.span then
        .silent (some context)
      else reporter.recordIn context description severity

def handleWith (reporter : Reporter) (context : Option Context) (description : Description)
    (severity : Severity) : Outcome :=
  if severity.isIgnored then .silent context else reporter.dispatch context description severity

def handle (reporter : Reporter) (context : Option Context) (description : Description) : Outcome :=
  reporter.handleWith context description (reporter.options.severityOf description.code)

def report (reporter : Reporter) (context : Option Context) (report : Report) : Outcome × Reporter :=
  let severity := reporter.options.severityOf report.code
  if severity.isIgnored then (.silent context, reporter)
  else
    let ready := reporter.load context
    let (told, scanner) := report.describe? ready.options ready.scanner
    let after := { ready with scanner }
    match told with
    | none => (.silent context, after)
    | some description => (after.dispatch context description severity, after)

end Reporter

end JavaDiagnostics
