import JavaDiagnostics.Finding.Rendering
import JavaDiagnostics.Proofs.Symbol.Nullness

set_option autoImplicit false

namespace JavaDiagnostics

def MissingType.unmarked : MissingType → MissingType
  | type missing => .type missing.unmarked
  | inMethod method missing => .inMethod method.unmarked missing.unmarked
  | inConstructor method missing => .inConstructor method.unmarked missing.unmarked

def Finding.unmarked : Finding → Finding
  | undefinedType type => .undefinedType type.unmarked
  | hiddenType type => .hiddenType type.unmarked
  | deprecatedType type terminally => .deprecatedType type.unmarked terminally
  | typeMismatch actual expected => .typeMismatch actual.unmarked expected.unmarked
  | rawType type => .rawType type.unmarked
  | unnecessaryCast value target => .unnecessaryCast value.unmarked target.unmarked
  | undefinedMethod method => .undefinedMethod method.unmarked
  | hiddenMethod method => .hiddenMethod method.unmarked
  | deprecatedMethod method terminally => .deprecatedMethod method.unmarked terminally
  | parameterMismatch method supplied => .parameterMismatch method.unmarked (supplied.map JavaType.unmarked)
  | staticMethodThroughInstance method => .staticMethodThroughInstance method.unmarked
  | unusedTypeArguments method supplied =>
      .unusedTypeArguments method.unmarked (supplied.map JavaType.unmarked)
  | undefinedConstructor method => .undefinedConstructor method.unmarked
  | constructorMismatch method supplied =>
      .constructorMismatch method.unmarked (supplied.map JavaType.unmarked)
  | undefinedField field segment => .undefinedField field.unmarked segment
  | hiddenField field segment => .hiddenField field.unmarked segment
  | deprecatedField field terminally segment => .deprecatedField field.unmarked terminally segment
  | staticFieldThroughInstance field segment => .staticFieldThroughInstance field.unmarked segment
  | unusedLocal field => .unusedLocal field.unmarked
  | unusedArgument field => .unusedArgument field.unmarked
  | localHidesField hider field => .localHidesField hider.unmarked field.unmarked
  | fieldHidesField field hidden => .fieldHidesField field.unmarked hidden.unmarked
  | missingThrowsTag exception target => .missingThrowsTag exception.unmarked target
  | undefinedTypeReference type target => .undefinedTypeReference type.unmarked target
  | codeTooLarge method => .codeTooLarge (method.map Method.unmarked)
  | finding => finding

def Report.unmarked (report : Report) : Report := { report with finding := report.finding.unmarked }

def Finding.pair? : Finding → Option (JavaType × JavaType)
  | typeMismatch first second | unnecessaryCast first second => some (first, second)
  | _ => none

def Finding.Clashes (finding : Finding) : Prop :=
  ∃ pair, finding.pair? = some pair ∧ JavaType.Clash pair.1 pair.2

-- Of a type mismatch a missing type would be told alone. A cast tells both its types, missing or not.
def Report.Clashes (report : Report) : Prop := report.finding.missing? = none ∧ report.finding.Clashes

def Options.unnamed (options : Options) : Options := { options with annotationName := fun _ => "" }

theorem missing_by_unmarked (method : Method) (inSignature : Method → JavaType → MissingType)
    (follows : ∀ missing, inSignature method.unmarked missing.unmarked = (inSignature method missing).unmarked) :
    method.unmarked.missingBy? inSignature = (method.missingBy? inSignature).map MissingType.unmarked := by
  have declaring : method.unmarked.declaring = method.declaring.unmarked := rfl
  unfold Method.missingBy?
  rw [declaring, JavaType.unmarked_missing, method.unmarked_missing]
  split
  · rfl
  · rw [Option.map_map, Option.map_map]
    exact congrArg (Option.map · method.missing?) (funext follows)

theorem missing_unmarked (finding : Finding) :
    finding.unmarked.missing? = finding.missing?.map MissingType.unmarked := by
  cases finding with
  | typeMismatch actual expected =>
      simp only [Finding.unmarked, Finding.missing?, List.find?_cons, JavaType.unmarked_missing]
      cases actual.missing <;> cases expected.missing <;> rfl
  | undefinedMethod method | parameterMismatch method supplied | undefinedConstructor method
  | constructorMismatch method supplied => exact missing_by_unmarked method _ fun _ => rfl
  | _ => rfl

theorem own_code_unmarked (finding : Finding) : finding.unmarked.ownCode = finding.ownCode := by
  cases finding with
  | codeTooLarge method => cases method <;> rfl
  | _ => rfl

namespace Description

theorem styled_same (code : Code) (first second : Style → List String)
    (same : ∀ short, first ⟨short, none⟩ = second ⟨short, none⟩) : styled code first = styled code second := by
  funext span
  simp only [styled, Style.full, Style.brief, same]

@[simp] theorem of_type_unmarked (code : Code) (type : JavaType) :
    ofType code type.unmarked = ofType code type := by
  funext span
  exact congrFun (styled_same code _ _ fun short => by simp) span

@[simp] theorem of_method_unmarked (code : Code) (method : Method) :
    ofMethod code method.unmarked = ofMethod code method := by
  funext span
  exact congrFun (styled_same code _ _ fun short => by simp) span

@[simp] theorem of_constructor_unmarked (code : Code) (method : Method) :
    ofConstructor code method.unmarked = ofConstructor code method := by
  funext span
  exact congrFun (styled_same code _ _ fun short => by simp) span

@[simp] theorem declaring_unmarked (short : Bool) (field : Field) :
    declaring ⟨short, none⟩ field.unmarked = declaring ⟨short, none⟩ field := by
  unfold declaring Field.unmarked
  cases field.declaring <;> simp

@[simp] theorem of_field_unmarked (code : Code) (field : Field) :
    ofField code field.unmarked = ofField code field := by
  funext span
  exact congrFun (styled_same code _ _ fun short => by simp) span

end Description

open Description (styled_same)

theorem names_unmarked (options : Options) (first second : JavaType)
    (apart : ¬ JavaType.Clash first second) :
    NamePair.of options.unnamed first.unmarked second.unmarked = NamePair.of options first second := by
  simp only [NamePair.of, JavaType.write_brief_unmarked, JavaType.write_full_unmarked]
  by_cases brief : write Style.brief first = write Style.brief second
  · by_cases full : write Style.full first = write Style.full second
    · exact absurd ⟨brief, full⟩ apart
    · simp [brief, full]
  · simp [brief]

theorem missing_render_unmarked (missing : MissingType) (anchor : Anchor) (scanner : Scanner) :
    missing.unmarked.render anchor scanner = missing.render anchor scanner := by
  cases missing with
  | type missing => simp [MissingType.unmarked, MissingType.render]
  | inMethod method missing | inConstructor method missing =>
      refine congrArg (Description.shown _) (styled_same _ _ _ fun short => ?_)
      simp

theorem marks_off (options : Options) (off : options.flag .nullAnalysis = false) :
    Finding.marks options = none := by
  simp [Finding.marks, off]

theorem render_unmarked (options : Options) (off : options.flag .nullAnalysis = false) (code : Code)
    (anchor : Anchor) (scanner : Scanner) (finding : Finding) (apart : ¬ finding.Clashes) :
    finding.unmarked.render options.unnamed code anchor scanner = finding.render options code anchor scanner := by
  have marks : Finding.marks options = none := marks_off options off
  have unnamed : Finding.marks options.unnamed = none := marks_off options.unnamed off
  cases finding with
  | typeMismatch first second | unnecessaryCast first second =>
      have distinct : ¬ JavaType.Clash first second := fun clash => apart ⟨(first, second), rfl, clash⟩
      simp only [Finding.unmarked, Finding.render, names_unmarked options first second distinct]
  | rawType type =>
      refine congrArg (ite (options.source < .generics) (none, scanner)) ?_
      refine congrArg (Description.shown _) (styled_same _ _ _ fun short => ?_)
      simp
  | parameterMismatch method supplied | constructorMismatch method supplied =>
      refine congrArg (Description.shown _) (styled_same _ _ _ fun short => ?_)
      simp [marks, unnamed]
  | unusedTypeArguments method supplied | localHidesField hider field | fieldHidesField field hidden =>
      refine congrArg (Description.shown _) (styled_same _ _ _ fun short => ?_)
      simp
  | missingThrowsTag exception target =>
      have told : Description.styled code (fun style => [write style exception.unmarked]) =
          Description.styled code fun style => [write style exception] :=
        styled_same _ _ _ fun short => by simp
      simp only [Finding.unmarked, Finding.render, told]
      rfl
  | codeTooLarge method =>
      cases method with
      | none => rfl
      | some method =>
          refine congrArg (Description.shown _) (styled_same _ _ _ fun short => ?_)
          simp
  | undefinedType | hiddenType | deprecatedType | undefinedMethod | hiddenMethod | deprecatedMethod
  | staticMethodThroughInstance | undefinedConstructor | hiddenField | deprecatedField
  | staticFieldThroughInstance | undefinedField | unusedLocal | unusedArgument =>
      simp [Finding.unmarked, Finding.render]
  | undefinedTypeReference =>
      simp only [Finding.unmarked, Finding.render, Description.of_type_unmarked]
      rfl
  | _ => rfl

theorem clash_unmarked (first second : JavaType) :
    JavaType.Clash first.unmarked second.unmarked ↔ JavaType.Clash first second := by
  simp only [JavaType.Clash, JavaType.write_brief_unmarked, JavaType.write_full_unmarked]

theorem pair_unmarked (finding : Finding) :
    finding.unmarked.pair? = finding.pair?.map fun pair => (pair.1.unmarked, pair.2.unmarked) := by
  cases finding <;> rfl

theorem clashes_unmarked (report : Report) : report.unmarked.Clashes ↔ report.Clashes := by
  have told : report.unmarked.finding.missing? = none ↔ report.finding.missing? = none := by
    simp [Report.unmarked, missing_unmarked]
  refine and_congr told ?_
  unfold Finding.Clashes Report.unmarked
  rw [pair_unmarked]
  cases report.finding.pair? with
  | none => simp
  | some pair => simp [clash_unmarked]

theorem describe_clash (report : Report) (clashes : report.Clashes) :
    ∃ first second, report.finding.pair? = some (first, second) ∧
      ∀ (options : Options) (scanner : Scanner), report.describe? options scanner =
        (some (.paired report.finding.ownCode (.marked options first second) report.anchor.range), scanner) := by
  obtain ⟨present, ⟨first, second⟩, pair, clash⟩ := clashes
  refine ⟨first, second, pair, fun options scanner => ?_⟩
  have names := NamePair.of_clash options first second clash
  unfold Report.describe?
  rw [present]
  obtain ⟨finding, anchor⟩ := report
  cases finding with
  | typeMismatch _ _ | unnecessaryCast _ _ =>
      obtain ⟨rfl, rfl⟩ := Prod.mk.inj (Option.some.inj pair)
      simp only [Finding.render, names]
      rfl
  | _ => cases pair

theorem describe_unmarked (report : Report) (apart : ¬ report.Clashes) (options : Options)
    (off : options.flag .nullAnalysis = false) (scanner : Scanner) :
    report.unmarked.describe? options.unnamed scanner = report.describe? options scanner := by
  have missing : report.unmarked.finding.missing? = report.finding.missing?.map MissingType.unmarked :=
    missing_unmarked report.finding
  unfold Report.describe?
  rw [missing]
  cases found : report.finding.missing? with
  | some missing => exact missing_render_unmarked missing report.anchor scanner
  | none =>
      have code : report.unmarked.finding.ownCode = report.finding.ownCode := own_code_unmarked report.finding
      rw [code]
      exact render_unmarked options off _ report.anchor scanner report.finding
        fun clashes => apart ⟨found, clashes⟩

theorem nullness_untold_when_off (first second : Report) (a b : Options) (scanner : Scanner)
    (alike : first.unmarked = second.unmarked) (settings : a.unnamed = b.unnamed)
    (off : a.flag .nullAnalysis = false) :
    (¬ first.Clashes → first.describe? a scanner = second.describe? b scanner) ∧
    (first.Clashes → ∃ one other : Description,
      first.describe? a scanner = (some one, scanner) ∧ second.describe? b scanner = (some other, scanner) ∧
        one.code = other.code ∧ one.span = other.span) := by
  have also : first.Clashes ↔ second.Clashes := by rw [← clashes_unmarked, alike, clashes_unmarked]
  have offToo : b.flag .nullAnalysis = false := by
    have flags := congrArg Options.flag settings
    exact (congrFun flags .nullAnalysis).symm.trans off
  constructor
  · intro apart
    calc first.describe? a scanner
      _ = first.unmarked.describe? a.unnamed scanner := (describe_unmarked first apart a off scanner).symm
      _ = second.unmarked.describe? b.unnamed scanner := by rw [alike, settings]
      _ = second.describe? b scanner := describe_unmarked second (mt also.mpr apart) b offToo scanner
  · intro clashes
    obtain ⟨_, _, _, told⟩ := describe_clash first clashes
    obtain ⟨_, _, _, toldToo⟩ := describe_clash second (also.mp clashes)
    have code : first.finding.ownCode = second.finding.ownCode := by
      have findings := congrArg (·.finding.ownCode) alike
      exact (own_code_unmarked _).symm.trans (findings.trans (own_code_unmarked _))
    have anchors := congrArg (·.anchor.range) alike
    exact ⟨_, _, told a scanner, toldToo b scanner, code, anchors⟩

theorem nested_nullness_untold :
    let item (nullness : Option NullMark) : JavaType :=
      { JavaType.named .reference "com.acme" ["Item"] with nullness }
    let list (argument : JavaType) : JavaType :=
      { JavaType.named .reference "java.util" ["List"] with arguments := [argument] }
    let add (argument : JavaType) : Method :=
      ⟨.named .reference "com.acme" ["Store"], "add", [list argument], .primitive "void", false, false⟩
    let report (known : Option NullMark) : Report :=
      ⟨.parameterMismatch (add (item known)) [list (item none)], .name ⟨0, 2⟩⟩
    let renamed : Options := .assign .usual (.annotationName .nonNull "Sure")
    (report (some .nonNull)).describe? .usual .empty = (report none).describe? renamed .empty := by
  intro item list add report renamed
  have settings : Options.usual.unnamed = renamed.unnamed := rfl
  obtain ⟨same, _⟩ :=
    nullness_untold_when_off (report (some .nonNull)) (report none) .usual renamed .empty rfl settings rfl
  apply same
  rintro ⟨_, _, pair, _⟩
  cases pair

-- The rule that nullness is told only where it is analyzed does not hold of two types with the same names.
theorem clash_told_when_off :
    let string (nullness : Option NullMark) : JavaType :=
      { JavaType.named .reference "java.lang" ["String"] with nullness }
    let report (actual expected : Option NullMark) : Report :=
      ⟨.typeMismatch (string actual) (string expected), .expression ⟨3, 8⟩⟩
    let known := report (some .nonNull) (some .nullable)
    let unknown := report none none
    known.unmarked = unknown.unmarked ∧ Options.usual.flag .nullAnalysis = false ∧
      (known.describe? .usual .empty).1.map (·.messageArguments) = some ["@NonNull String", "@Nullable String"] ∧
      (unknown.describe? .usual .empty).1.map (·.messageArguments) = some ["String", "String"] := by
  intro string report known unknown
  refine ⟨rfl, rfl, ?_, ?_⟩ <;> decide +kernel

end JavaDiagnostics
