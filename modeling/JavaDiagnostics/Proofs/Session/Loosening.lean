import JavaDiagnostics.Proofs.Options.Loosening
import JavaDiagnostics.Proofs.Session.Suppression

set_option autoImplicit false

namespace JavaDiagnostics

section Rendering

variable (before after : Options) (loosened : before.Loosened after)

include loosened

theorem annotation_name_kept : after.annotationName = before.annotationName :=
  funext fun mark => loosened (.annotationName mark)

theorem marks_kept : Finding.marks after = Finding.marks before := by
  have analysis : after.flag .nullAnalysis = before.flag .nullAnalysis := loosened (.flag .nullAnalysis)
  simp only [Finding.marks, annotation_name_kept before after loosened, analysis]

theorem pair_kept (first second : JavaType) : NamePair.of after first second = NamePair.of before first second := by
  simp only [NamePair.of, annotation_name_kept before after loosened]

theorem admits_kept (threshold : Threshold) (visibility : Visibility)
    (admitted : (before.threshold threshold).admits visibility = true) :
    (after.threshold threshold).admits visibility = true := by
  have wider : (before.threshold threshold).rank ≤ (after.threshold threshold).rank :=
    loosened (.threshold threshold)
  simp only [Visibility.admits, decide_eq_true_eq] at admitted ⊢
  exact Nat.le_trans admitted wider

theorem tags_matter_kept (target : DocTarget) (matters : Finding.tagsMatter before target = true) :
    Finding.tagsMatter after target = true := by
  have overriding : before.flag .tagsOverriding = true → after.flag .tagsOverriding = true :=
    loosened (.flag .tagsOverriding)
  simp only [Finding.tagsMatter, Bool.and_eq_true, Bool.or_eq_true] at matters ⊢
  exact ⟨matters.1.imp_right overriding, admits_kept before after loosened _ _ matters.2⟩

theorem comment_matters_kept (target : DocTarget) (matters : Finding.commentMatters before target = true) :
    Finding.commentMatters after target = true := by
  have overriding : before.flag .commentsOverriding = true → after.flag .commentsOverriding = true :=
    loosened (.flag .commentsOverriding)
  simp only [Finding.commentMatters, Bool.and_eq_true, Bool.or_eq_true] at matters ⊢
  exact ⟨matters.1.imp_right overriding, admits_kept before after loosened _ _ matters.2⟩

theorem reference_matters_kept (target : DocTarget) (matters : Finding.referenceMatters before target = true) :
    Finding.referenceMatters after target = true :=
  admits_kept before after loosened _ _ matters

omit loosened in
theorem gate_kept (first second : Prop) [Decidable first] [Decidable second] (opens : first → second)
    (told : Option Description × Scanner) (scanner : Scanner) (description : Description)
    (passed : (if first then told else (none, scanner)).1 = some description) :
    (if second then told else (none, scanner)).1 = some description := by
  by_cases held : first
  · rw [if_pos held] at passed
    rw [if_pos (opens held)]
    exact passed
  · rw [if_neg held] at passed
    cases passed

theorem render_kept (code : Code) (anchor : Anchor) (scanner : Scanner) (finding : Finding)
    (description : Description)
    (told : (finding.render before code anchor scanner).1 = some description) :
    (finding.render after code anchor scanner).1 = some description := by
  cases finding with
  | typeMismatch first second | unnecessaryCast first second =>
      simp only [Finding.render, pair_kept before after loosened] at told ⊢
      exact told
  | parameterMismatch method supplied | constructorMismatch method supplied =>
      simp only [Finding.render, marks_kept before after loosened] at told ⊢
      exact told
  | rawType type =>
      have later : before.source.major ≤ after.source.major := loosened (.conformance .source)
      simp only [Finding.render, ← ite_not (before.source < .generics),
        ← ite_not (after.source < .generics)] at told ⊢
      exact gate_kept _ _ (mt (Nat.lt_of_le_of_lt later)) _ scanner description told
  | missingComment target =>
      exact gate_kept _ _ (comment_matters_kept before after loosened target) _ scanner description told
  | missingParamTag _ target | missingReturnTag target | missingThrowsTag _ target =>
      exact gate_kept _ _ (tags_matter_kept before after loosened target) _ scanner description told
  | undefinedFieldReference _ target | undefinedTypeReference _ target =>
      exact gate_kept _ _ (reference_matters_kept before after loosened target) _ scanner description told
  | codeTooLarge method => cases method <;> exact told
  | _ => exact told

theorem describe_kept (scanner : Scanner) (report : Report) (description : Description)
    (told : (report.describe? before scanner).1 = some description) :
    (report.describe? after scanner).1 = some description := by
  unfold Report.describe? at told ⊢
  cases missing : report.finding.missing? with
  | some missing =>
      simp only [missing] at told ⊢
      exact told
  | none =>
      simp only [missing] at told ⊢
      exact render_kept before after loosened _ _ _ _ description told

end Rendering

namespace Session

section Loosened

variable (reporter : Reporter) (looser : Options) (loosened : reporter.options.Loosened looser) (call : Call)

include loosened

theorem severity_kept (loud : (call.severity reporter.options).isIgnored = false) :
    (call.severity reporter.options).Raised (call.severity looser) := by
  cases call with
  | report r => exact Options.severity_of_raised reporter.options looser loosened r.code loud
  | handle description => exact Options.severity_of_raised reporter.options looser loosened description.code loud
  | handleWith description severity => exact severity.raised_self

theorem told_kept (context : Option Context) (description : Description)
    (told : call.told reporter context = some description) :
    call.told { reporter with options := looser } context = some description := by
  cases call with
  | report r =>
      simp only [Call.told, load_under] at told ⊢
      exact describe_kept reporter.options looser loosened _ r description told
  | handle _ => exact told
  | handleWith _ _ => exact told

-- A warning that became an error passes where the warning did: errors are suppressed on terms no wider.
theorem suppresses_kept (context : Context) (code : Code) (first second : Severity) (span : Span)
    (raised : first.Raised second) (loud : first.isIgnored = false)
    (bare : reporter.suppresses context code first span = false) :
    ({ reporter with options := looser } : Reporter).suppresses context code second span = false := by
  refine eq_false_of_ne_true fun covered => ?_
  obtain ⟨on, optional, mild, region⟩ := (suppresses_iff _ context code second span).mp covered
  have onBefore : reporter.options.flag .suppressWarnings = true := loosened (.flag .suppressWarnings) on
  have mildBefore : first.isError = false ∨ reporter.options.flag .suppressOptionalErrors = true := by
    refine mild.imp (fun harmless => eq_false_of_ne_true fun harmful => ?_)
      (loosened (.flag .suppressOptionalErrors))
    cases harmless.symm.trans (Severity.raised_error first second raised loud harmful)
  have coveredBefore := (suppresses_iff reporter context code first span).mpr
    ⟨onBefore, raised.optional optional, mildBefore, region⟩
  cases bare.symm.trans coveredBefore

theorem records_kept (context : Context) (description : Description)
    (records : call.Records reporter context description) :
    call.Records { reporter with options := looser } context description := by
  obtain ⟨⟨loud, told⟩, passed, bare⟩ := records
  have raised := severity_kept reporter looser loosened call loud
  refine ⟨⟨?_, ?_⟩, ?_, ?_⟩
  · exact Severity.raised_loud _ _ raised loud
  · exact told_kept reporter looser loosened call (some context) description told
  · exact fun ignoring => raised.internal (passed ignoring)
  · exact suppresses_kept reporter looser loosened context description.code _ _ description.span raised loud bare

end Loosened

theorem loosened_records (reporter : Reporter) (looser : Options) (context : Option Context) (call : Call)
    (first : Diagnostic) (loosened : reporter.options.Loosened looser)
    (recorded : (call.outcome reporter context).1.recorded = some first) :
    ∃ second : Diagnostic,
      (call.outcome { reporter with options := looser } context).1.recorded = some second ∧
        second.code = first.code ∧ second.arguments = first.arguments ∧
        second.messageArguments = first.messageArguments ∧ second.message = first.message ∧
        second.span = first.span ∧ second.position = first.position ∧ second.file = first.file ∧
        first.severity.level ≤ second.severity.level := by
  cases context with
  | none =>
      rw [adrift_records_nothing] at recorded
      cases recorded
  | some context =>
      obtain ⟨description, records, rfl⟩ := (recorded_iff call reporter context first).mp recorded
      have recordsToo := records_kept reporter looser loosened call context description records
      have raised := severity_kept reporter looser loosened call records.raised.loud
      exact ⟨_, (recorded_iff call _ context _).mpr ⟨description, recordsToo, rfl⟩,
        rfl, rfl, rfl, rfl, rfl, rfl, rfl, raised.level⟩

-- A missing tag in a comment, a warning that becomes an error while more visibilities are let in and nothing
-- is suppressed any longer.
theorem missing_tag_stays_recorded :
    let options := (Options.usual.assign (.flag .docComments true)).assign (.level .missingJavadocTags .warning)
    let louder := options.assign (.level .missingJavadocTags .error)
    let wider := louder.assign (.threshold .missingTags .privateMember)
    let looser := wider.assign (.flag .suppressWarnings false)
    let missing : Call := .report ⟨.missingParamTag "x" ⟨.publicMember, false⟩, .name ⟨0, 3⟩⟩
    let context := Context.opened (.ofText "A.java" 0 "/** */ void f(int x);") .method
    ∃ second : Diagnostic,
      (missing.outcome (.new looser .proceed) (some context)).1.recorded = some second ∧
        second.code = .javadocMissingParamTag ∧ second.arguments = ["x"] ∧ .warning ≤ second.severity.level := by
  intro options louder wider looser missing context
  let reporter := Reporter.new options .proceed
  have level := options.loosened_assign (.level .missingJavadocTags .error) (Nat.le_succ 2)
  have threshold := louder.loosened_assign (.threshold .missingTags .privateMember) (Nat.zero_le 3)
  have flag := wider.loosened_assign (.flag .suppressWarnings false) nofun
  have loosened : options.Loosened looser :=
    Options.loosened_trans _ _ _ level (Options.loosened_trans _ _ _ threshold flag)
  have warned : (missing.severity options).level = .warning := by decide
  have records : missing.Records reporter context (.same .javadocMissingParamTag ["x"] ⟨0, 3⟩) :=
    ⟨⟨by decide, rfl⟩, nofun, by decide⟩
  obtain ⟨second, recorded, code, arguments, _, _, _, _, _, raised⟩ := loosened_records reporter looser
    (some context) missing _ loosened ((recorded_iff missing reporter context _).mpr ⟨_, records, rfl⟩)
  refine ⟨second, recorded, code, arguments, ?_⟩
  rw [← warned]
  exact raised

end Session

end JavaDiagnostics
