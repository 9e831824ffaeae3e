import JavaDiagnostics.Finding

/-!
What findings tell: the arguments of a problem with full and with short names, and the span on which it is
shown, which may have to be looked for in the text. Options leave some findings out.
-/

set_option autoImplicit false

namespace JavaDiagnostics

structure Description where
  code : Code
  /-- With full names. -/
  arguments : List String
  /-- With short names. -/
  messageArguments : List String
  span : Span
deriving DecidableEq, Repr

namespace Description

def styled (code : Code) (texts : Style → List String) (span : Span) : Description :=
  ⟨code, texts .full, texts .brief, span⟩

def same (code : Code) (texts : List String) (span : Span) : Description := ⟨code, texts, texts, span⟩

def paired (code : Code) (names : NamePair) (span : Span) : Description :=
  ⟨code, [names.full.1, names.full.2], [names.short.1, names.short.2], span⟩

-- A type is told without its dimensions.
def ofType (code : Code) (type : JavaType) (span : Span) : Description :=
  styled code (fun style => [write style type.leaf]) span

def ofMethod (code : Code) (method : Method) (span : Span) : Description :=
  styled code
    (fun style => [write style method.declaring, method.selector, method.parameterList style]) span

def ofConstructor (code : Code) (method : Method) (span : Span) : Description :=
  styled code (fun style => [write style method.declaring, method.parameterList style]) span

def declaring (style : Style) (field : Field) : String :=
  match field.declaring with
  | some type => write style type
  | none => ""

def ofField (code : Code) (field : Field) (span : Span) : Description :=
  styled code (fun style => [declaring style field, field.name]) span

def shown (place : Span × Scanner) (tell : Span → Description) : Option Description × Scanner :=
  (some (tell place.1), place.2)

end Description

open Description (declaring shown)

namespace MissingType

def render (anchor : Anchor) (scanner : Scanner) : MissingType → Option Description × Scanner
  | type missing => shown (anchor.range, scanner) (.ofType .undefinedType missing)
  | inMethod method missing =>
      shown (anchor.span scanner) (.styled .missingTypeInMethod fun style =>
        [write style method.declaring, method.selector, method.parameterList style,
         write style missing.leaf])
  | inConstructor method missing =>
      shown (anchor.range, scanner) (.styled .missingTypeInConstructor fun style =>
        [write style method.declaring, method.parameterList style, write style missing.leaf])

end MissingType

namespace Finding

def tagsMatter (options : Options) (target : DocTarget) : Bool :=
  (!target.overriding || options.flag .tagsOverriding) &&
    (options.threshold .missingTags).admits target.visibility

def commentMatters (options : Options) (target : DocTarget) : Bool :=
  (!target.overriding || options.flag .commentsOverriding) &&
    (options.threshold .missingComments).admits target.visibility

def referenceMatters (options : Options) (target : DocTarget) : Bool :=
  (options.threshold .invalidTags).admits target.visibility

def marks (options : Options) : Option (NullMark → String) :=
  if options.flag .nullAnalysis then some options.annotationName else none

def fieldSpan (scanner : Scanner) (anchor : Anchor) : Option Nat → Span × Scanner
  | some index => (anchor.segmentSpan index, scanner)
  | none => anchor.span scanner

def render (options : Options) (code : Code) (anchor : Anchor) (scanner : Scanner) :
    Finding → Option Description × Scanner
  | undefinedType type | hiddenType type | deprecatedType type _ =>
      shown (anchor.span scanner) (.ofType code type)
  | typeMismatch first second | unnecessaryCast first second =>
      shown (anchor.range, scanner) (.paired code (.of options first second))
  | rawType type =>
      if options.source < .generics then (none, scanner)
      else
        shown (anchor.span scanner) (.styled code fun style =>
          [write style type.leaf, write style type.leaf.erasure])
  | undefinedMethod method | hiddenMethod method | staticMethodThroughInstance method =>
      shown (anchor.span scanner) (.ofMethod code method)
  | deprecatedMethod method _ =>
      if code = .undefinedConstructor ∨ method.isConstructor then
        shown (anchor.range, scanner) (.ofConstructor code method)
      else shown (anchor.span scanner) (.ofMethod code method)
  | undefinedConstructor method =>
      if code = .undefinedConstructor ∨ method.isConstructor then
        shown (anchor.range, scanner) (.ofConstructor code method)
      else shown (anchor.range, scanner) (.same code [])
  | parameterMismatch method supplied =>
      shown (anchor.argumentsSpan scanner) (.styled code fun style =>
        let marked : Style := { style with marks := marks options }
        [write style method.declaring, method.selector, method.parameterList marked,
         typeList marked false supplied])
  | constructorMismatch method supplied =>
      shown (anchor.argumentsSpan scanner) (.styled code fun style =>
        let marked : Style := { style with marks := marks options }
        [write style method.declaring, method.parameterList marked, typeList marked false supplied])
  | unusedTypeArguments method supplied =>
      shown (anchor.range, scanner) (.styled code fun style =>
        [write style method.declaring, method.selector, method.parameterList style,
         typeList style false supplied])
  | undefinedField field segment =>
      shown (fieldSpan scanner anchor segment) (.same code [field.name])
  | hiddenField field segment | deprecatedField field _ segment
  | staticFieldThroughInstance field segment =>
      shown (fieldSpan scanner anchor segment) (.ofField code field)
  | unusedLocal field | unusedArgument field =>
      shown (anchor.span scanner) (.same code [field.name])
  | localHidesField hider field =>
      shown (anchor.span scanner) (.styled code fun style => [hider.name, declaring style field])
  | fieldHidesField field hidden =>
      shown (anchor.span scanner) (.styled code fun style =>
        [declaring style field, field.name, declaring style hidden])
  | unusedImport declared | importNotFound declared =>
      shown (anchor.range, scanner) (.same code [JavaType.dotted declared.segments])
  | missingComment target =>
      if commentMatters options target then
        shown (anchor.range, scanner) (.same code [target.visibility.name])
      else (none, scanner)
  | missingParamTag name target =>
      if tagsMatter options target then shown (anchor.range, scanner) (.same code [name])
      else (none, scanner)
  | missingReturnTag target =>
      if tagsMatter options target then shown (anchor.range, scanner) (.same code [])
      else (none, scanner)
  | missingThrowsTag exception target =>
      if tagsMatter options target then
        shown (anchor.range, scanner) (.styled code fun style => [write style exception])
      else (none, scanner)
  | undefinedFieldReference name target =>
      if referenceMatters options target then shown (anchor.range, scanner) (.same code [name])
      else (none, scanner)
  | undefinedTypeReference type target =>
      if referenceMatters options target then shown (anchor.range, scanner) (.ofType code type)
      else (none, scanner)
  | invalidTag => shown (anchor.range, scanner) (.same code [])
  | parsingError token expected => shown (anchor.range, scanner) (.same code (token :: expected.toList))
  | unhandledToken token | unusedToken token => shown (anchor.range, scanner) (.same code [token])
  | task tag message => shown (anchor.range, scanner) (.same code [tag, message])
  | codeTooLarge none => shown (anchor.range, scanner) (.same code [])
  | codeTooLarge (some method) =>
      shown (anchor.range, scanner) (.styled code fun style =>
        [method.selector, method.parameterList style])
  | coded _ full brief => shown (anchor.span scanner) (⟨code, full, brief, ·⟩)

end Finding

def Report.describe? (options : Options) (scanner : Scanner) (report : Report) :
    Option Description × Scanner :=
  match report.finding.missing? with
  | some missing => missing.render report.anchor scanner
  | none => report.finding.render options report.finding.ownCode report.anchor scanner

end JavaDiagnostics
