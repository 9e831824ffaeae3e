import JavaDiagnostics.Proofs.Finding.Rendering
import JavaDiagnostics.Proofs.Message.Slots

/-!
How many arguments a finding tells is said once for each finding; the renderers and the catalog agree with it.
-/

set_option autoImplicit false

namespace JavaDiagnostics

open Description (shown)

def Finding.isStructured : Finding → Bool
  | coded _ _ _ => false
  | _ => true

def MissingType.arity : MissingType → Nat
  | type _ => 1
  | inMethod _ _ => 4
  | inConstructor _ _ => 3

def Finding.arity : Finding → Nat
  | undefinedType _ | hiddenType _ | deprecatedType _ _ => 1
  | typeMismatch _ _ | rawType _ | unnecessaryCast _ _ => 2
  | undefinedMethod _ | hiddenMethod _ | staticMethodThroughInstance _ => 3
  | deprecatedMethod method _ => if method.isConstructor then 2 else 3
  | parameterMismatch _ _ | unusedTypeArguments _ _ => 4
  | undefinedConstructor _ => 2
  | constructorMismatch _ _ => 3
  | undefinedField _ _ => 1
  | hiddenField _ _ | deprecatedField _ _ _ | staticFieldThroughInstance _ _ => 2
  | unusedLocal _ | unusedArgument _ => 1
  | localHidesField _ _ => 2
  | fieldHidesField _ _ => 3
  | unusedImport _ | importNotFound _ => 1
  | missingComment _ | missingParamTag _ _ | missingThrowsTag _ _ => 1
  | missingReturnTag _ | invalidTag => 0
  | undefinedFieldReference _ _ | undefinedTypeReference _ _ => 1
  | parsingError _ expected => 1 + expected.toList.length
  | unhandledToken _ | unusedToken _ => 1
  | task _ _ => 2
  | codeTooLarge method => if method.isSome then 2 else 0
  | coded _ full _ => full.length

def Counts (count : Nat) (query : Scanner → Option Description × Scanner) : Prop :=
  ∀ (scanner : Scanner) (description : Description), (query scanner).1 = some description →
    description.arguments.length = count ∧ description.messageArguments.length = count

theorem counts_nothing (count : Nat) : Counts count fun scanner => (none, scanner) :=
  fun _ _ told => by cases told

theorem counts_shown {count : Nat} {place : Scanner → Span × Scanner} {tell : Span → Description}
    (full : ∀ span, (tell span).arguments.length = count)
    (brief : ∀ span, (tell span).messageArguments.length = count) :
    Counts count fun scanner => shown (place scanner) tell := by
  intro scanner description told
  obtain rfl := Option.some.inj told
  exact ⟨full (place scanner).1, brief (place scanner).1⟩

theorem counts_choice {count : Nat} (condition : Prop) [Decidable condition]
    {first second : Scanner → Option Description × Scanner} (one : condition → Counts count first)
    (other : ¬ condition → Counts count second) :
    Counts count fun scanner => if condition then first scanner else second scanner := by
  by_cases holds : condition
  · simpa only [if_pos holds] using one holds
  · simpa only [if_neg holds] using other holds

theorem missing_render_counts (missing : MissingType) (anchor : Anchor) :
    Counts missing.arity (missing.render anchor ·) := by
  cases missing with
  | type _ | inMethod _ _ | inConstructor _ _ => exact counts_shown (fun _ => rfl) fun _ => rfl

theorem deprecated_method_code (method : Method) (terminally : Bool) :
    (Finding.deprecatedMethod method terminally).ownCode ≠ .undefinedConstructor := by
  simp only [Finding.ownCode]
  cases method.isConstructor <;> cases terminally <;> decide

theorem finding_render_counts (options : Options) (anchor : Anchor) (finding : Finding)
    (structured : finding.isStructured = true) :
    Counts finding.arity (finding.render options finding.ownCode anchor ·) := by
  cases finding with
  | rawType _ =>
      exact counts_choice _ (fun _ => counts_nothing _) fun _ => counts_shown (fun _ => rfl) fun _ => rfl
  | deprecatedMethod method terminally =>
      have other := deprecated_method_code method terminally
      refine counts_choice _ (fun creates => ?_) fun calls => ?_
      · have constructed := creates.resolve_left other
        simp only [Finding.arity, if_pos constructed]
        exact counts_shown (fun _ => rfl) fun _ => rfl
      · simp only [Finding.arity, if_neg fun constructed => calls (.inr constructed)]
        exact counts_shown (fun _ => rfl) fun _ => rfl
  | undefinedConstructor method =>
      exact counts_choice _ (fun _ => counts_shown (fun _ => rfl) fun _ => rfl)
        fun other => absurd (.inl rfl) other
  | missingComment _ | missingParamTag _ _ | missingReturnTag _ | missingThrowsTag _ _
  | undefinedFieldReference _ _ | undefinedTypeReference _ _ =>
      exact counts_choice _ (fun _ => counts_shown (fun _ => rfl) fun _ => rfl) fun _ => counts_nothing _
  | parsingError token expected =>
      exact counts_shown (fun _ => Nat.add_comm _ _) fun _ => Nat.add_comm _ _
  | codeTooLarge method =>
      cases method with
      | none | some _ => exact counts_shown (fun _ => rfl) fun _ => rfl
  | coded _ _ _ => cases structured
  | _ => exact counts_shown (fun _ => rfl) fun _ => rfl

theorem missing_code_takes (missing : MissingType) : ∃ template, missing.code.Takes missing.arity template := by
  cases missing with
  | type _ => exact Code.takes_chars 1 rfl (by decide +kernel)
  | inMethod _ _ => exact Code.takes_chars 4 rfl (by decide +kernel)
  | inConstructor _ _ => exact Code.takes_chars 3 rfl (by decide +kernel)

set_option maxRecDepth 1000 in
-- The longest template is a list of more than a hundred characters.
theorem own_code_takes (finding : Finding) (structured : finding.isStructured = true) :
    ∃ template, finding.ownCode.Takes finding.arity template := by
  cases finding with
  | missingReturnTag _ | invalidTag => exact Code.takes_chars 0 rfl (by decide +kernel)
  | undefinedType _ | hiddenType _ | undefinedField _ _ | unusedLocal _ | unusedArgument _ | unusedImport _
  | importNotFound _ | missingComment _ | missingParamTag _ _ | missingThrowsTag _ _
  | undefinedFieldReference _ _ | undefinedTypeReference _ _ | unhandledToken _ | unusedToken _ =>
      exact Code.takes_chars 1 rfl (by decide +kernel)
  | typeMismatch _ _ | rawType _ | unnecessaryCast _ _ | undefinedConstructor _ | hiddenField _ _
  | staticFieldThroughInstance _ _ | localHidesField _ _ | task _ _ =>
      exact Code.takes_chars 2 rfl (by decide +kernel)
  | undefinedMethod _ | hiddenMethod _ | staticMethodThroughInstance _ | constructorMismatch _ _
  | fieldHidesField _ _ => exact Code.takes_chars 3 rfl (by decide +kernel)
  | parameterMismatch _ _ | unusedTypeArguments _ _ => exact Code.takes_chars 4 rfl (by decide +kernel)
  | deprecatedType _ terminally =>
      cases terminally with
      | false | true => exact Code.takes_chars 1 rfl (by decide +kernel)
  | deprecatedField _ terminally _ =>
      cases terminally with
      | false | true => exact Code.takes_chars 2 rfl (by decide +kernel)
  | deprecatedMethod method terminally =>
      simp only [Finding.ownCode, Finding.arity]
      cases method.isConstructor with
      | true =>
          cases terminally with
          | false | true => exact Code.takes_chars 2 rfl (by decide +kernel)
      | false =>
          cases terminally with
          | false | true => exact Code.takes_chars 3 rfl (by decide +kernel)
  | parsingError _ expected =>
      cases expected with
      | none => exact Code.takes_chars 1 rfl (by decide +kernel)
      | some _ => exact Code.takes_chars 2 rfl (by decide +kernel)
  | codeTooLarge method =>
      cases method with
      | none => exact Code.takes_chars 0 rfl (by decide +kernel)
      | some method =>
          simp only [Finding.ownCode, Finding.arity, Option.isSome_some]
          cases method.isConstructor with
          | false | true => exact Code.takes_chars 2 rfl (by decide +kernel)
  | coded _ _ _ => cases structured

theorem describe_counts (options : Options) (report : Report) (structured : report.finding.isStructured = true) :
    ∃ count template, report.code.Takes count template ∧ Counts count (report.describe? options ·) := by
  unfold Report.describe? Report.code Finding.code
  cases report.finding.missing? with
  | some missing =>
      obtain ⟨template, takes⟩ := missing_code_takes missing
      exact ⟨missing.arity, template, takes, missing_render_counts missing report.anchor⟩
  | none =>
      obtain ⟨template, takes⟩ := own_code_takes report.finding structured
      exact ⟨report.finding.arity, template, takes,
        finding_render_counts options report.anchor report.finding structured⟩

theorem messages_have_no_open_slot (options : Options) (scanner : Scanner) (report : Report)
    (description : Description) (structured : report.finding.isStructured = true)
    (told : (report.describe? options scanner).1 = some description) :
    ∃ template, description.code.template? = some template ∧
      description.arguments.length = description.messageArguments.length ∧
      (∀ spelling index, .slot spelling index ∈ Text.Template.pieces template.toList →
        index < description.messageArguments.length) ∧
      description.code.message description.messageArguments =
        (if description.code.belongsTo .javadoc then Code.lead else "") ++
          String.ofList ((Text.Template.pieces template.toList).flatMap
            (Text.Piece.inserted description.messageArguments)) := by
  obtain ⟨count, template, takes, counts⟩ := describe_counts options report structured
  obtain ⟨full, brief⟩ := counts scanner description told
  have code := (describe_tells options report).code scanner description told
  rw [← code, ← brief] at takes
  exact ⟨template, takes.found, full.trans brief.symm, Code.takes_slot _ _ template takes,
    Code.takes_message _ _ template takes⟩

-- A constructor of a type that is there, with a parameter of a type that is not.
theorem missing_parameter_message :
    let widget := JavaType.named .reference "com.acme" ["Widget"]
    let gadget := { JavaType.named .reference "com.acme" ["Gadget"] with missing := true }
    let report : Report := ⟨.undefinedConstructor (.construct widget [gadget]), .name ⟨0, 5⟩⟩
    let description : Description :=
      ⟨.missingTypeInConstructor, ["com.acme.Widget", "com.acme.Gadget", "com.acme.Gadget"],
        ["Widget", "Gadget", "Gadget"], ⟨0, 5⟩⟩
    (report.describe? .usual .empty).1 = some description ∧
      ∃ template, Code.missingTypeInConstructor.template? = some template ∧
        ∀ spelling index, .slot spelling index ∈ Text.Template.pieces template.toList → index < 3 := by
  intro widget gadget report description
  have told : (report.describe? .usual .empty).1 = some description := by decide +kernel
  obtain ⟨template, found, _, slots, _⟩ :=
    messages_have_no_open_slot .usual .empty report description rfl told
  exact ⟨told, template, found, slots⟩

end JavaDiagnostics
