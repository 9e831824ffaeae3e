import JavaDiagnostics.Finding.Rendering
import JavaDiagnostics.Proofs.Source.Reading

set_option autoImplicit false

namespace JavaDiagnostics

open Description (shown)

-- Both facts are carried through the renderers together: they hold for the same reason, that every
-- description is built in one place from the code and the place that it is given.
structure Tells (code : Code) (query : Scanner → Option Description × Scanner) : Prop where
  reads : Reads query
  code : ∀ (scanner : Scanner) (description : Description),
    (query scanner).1 = some description → description.code = code

theorem tells_nothing (code : Code) : Tells code fun scanner => (none, scanner) :=
  ⟨reads_answer none, fun _ _ told => by cases told⟩

theorem tells_shown {code : Code} {place : Scanner → Span × Scanner} {tell : Span → Description}
    (found : Reads place) (kept : ∀ span, (tell span).code = code) :
    Tells code fun scanner => shown (place scanner) tell := by
  constructor
  · exact reads_map found fun span => some (tell span)
  · intro scanner description told
    obtain rfl := Option.some.inj told
    exact kept (place scanner).1

theorem tells_choice {code : Code} (condition : Prop) [Decidable condition]
    {first second : Scanner → Option Description × Scanner} (one : Tells code first)
    (other : Tells code second) :
    Tells code fun scanner => if condition then first scanner else second scanner := by
  by_cases holds : condition
  · simpa only [if_pos holds] using one
  · simpa only [if_neg holds] using other

theorem field_span_reads (anchor : Anchor) (segment : Option Nat) :
    Reads (Finding.fieldSpan · anchor segment) := by
  cases segment with
  | some index => exact reads_answer (anchor.segmentSpan index)
  | none => exact anchor.span_reads

theorem missing_render_tells (missing : MissingType) (anchor : Anchor) :
    Tells missing.code (missing.render anchor ·) := by
  cases missing with
  | type _ => exact tells_shown (reads_answer anchor.range) fun _ => rfl
  | inMethod _ _ => exact tells_shown anchor.span_reads fun _ => rfl
  | inConstructor _ _ => exact tells_shown (reads_answer anchor.range) fun _ => rfl

theorem finding_render_tells (options : Options) (code : Code) (anchor : Anchor) (finding : Finding) :
    Tells code (finding.render options code anchor ·) := by
  have range := reads_answer anchor.range
  have span := anchor.span_reads
  have supplied := anchor.arguments_span_reads
  cases finding with
  | undefinedType _ | hiddenType _ | deprecatedType _ _ | undefinedMethod _ | hiddenMethod _
  | staticMethodThroughInstance _ | unusedLocal _ | unusedArgument _ | localHidesField _ _
  | fieldHidesField _ _ | coded _ _ _ => exact tells_shown span fun _ => rfl
  | typeMismatch _ _ | unnecessaryCast _ _ | unusedTypeArguments _ _ | unusedImport _ | importNotFound _
  | invalidTag | parsingError _ _ | unhandledToken _ | unusedToken _ | task _ _ =>
      exact tells_shown range fun _ => rfl
  | parameterMismatch _ _ | constructorMismatch _ _ => exact tells_shown supplied fun _ => rfl
  | undefinedField _ segment | hiddenField _ segment | deprecatedField _ _ segment
  | staticFieldThroughInstance _ segment =>
      exact tells_shown (field_span_reads anchor segment) fun _ => rfl
  | rawType _ => exact tells_choice _ (tells_nothing code) (tells_shown span fun _ => rfl)
  | deprecatedMethod _ _ =>
      exact tells_choice _ (tells_shown range fun _ => rfl) (tells_shown span fun _ => rfl)
  | undefinedConstructor _ =>
      exact tells_choice _ (tells_shown range fun _ => rfl) (tells_shown range fun _ => rfl)
  | missingComment _ | missingParamTag _ _ | missingReturnTag _ | missingThrowsTag _ _
  | undefinedFieldReference _ _ | undefinedTypeReference _ _ =>
      exact tells_choice _ (tells_shown range fun _ => rfl) (tells_nothing code)
  | codeTooLarge method =>
      cases method with
      | none => exact tells_shown range fun _ => rfl
      | some _ => exact tells_shown range fun _ => rfl

theorem describe_tells (options : Options) (report : Report) :
    Tells report.code (report.describe? options ·) := by
  unfold Report.describe? Report.code Finding.code
  cases report.finding.missing? with
  | some missing => exact missing_render_tells missing report.anchor
  | none => exact finding_render_tells options report.finding.ownCode report.anchor report.finding

end JavaDiagnostics
