import JavaDiagnostics.Finding.Rendering
import JavaDiagnostics.Proofs.Symbol.Parts

set_option autoImplicit false

namespace JavaDiagnostics

def Method.subjects (method : Method) : List JavaType :=
  method.declaring :: method.returns :: method.parameters

namespace Finding

def mayGiveWay : Finding → Bool
  | typeMismatch _ _ | undefinedMethod _ | parameterMismatch _ _ | undefinedConstructor _
  | constructorMismatch _ _ => true
  | _ => false

def subjects : Finding → List JavaType
  | typeMismatch actual expected => [actual, expected]
  | undefinedMethod method | parameterMismatch method _ | undefinedConstructor method
  | constructorMismatch method _ => method.subjects
  | _ => []

def supplied : Finding → List JavaType
  | parameterMismatch _ types | constructorMismatch _ types => types
  | _ => []

def carried (finding : Finding) : List JavaType := (finding.subjects ++ finding.supplied).flatMap JavaType.parts

end Finding

def Code.tellsMissing (code : Code) : Bool :=
  code = .undefinedType ∨ code = .missingTypeInMethod ∨ code = .missingTypeInConstructor

def MissingType.missing : MissingType → JavaType
  | type missing | inMethod _ missing | inConstructor _ missing => missing

theorem missing_code_tells (missing : MissingType) : missing.code.tellsMissing = true := by
  cases missing with
  | type _ | inMethod _ _ | inConstructor _ _ => rfl

theorem own_code_tells (finding : Finding) (giving : finding.mayGiveWay = true) :
    finding.ownCode.tellsMissing = false := by
  cases finding with
  | typeMismatch _ _ | undefinedMethod _ | parameterMismatch _ _ | undefinedConstructor _
  | constructorMismatch _ _ => rfl
  | _ => cases giving

theorem missing_by_subject (method : Method) (inSignature : Method → JavaType → MissingType)
    (told : ∀ missing, (inSignature method missing).missing = missing) :
    (method.missingBy? inSignature).map MissingType.missing = method.subjects.find? (·.missing) := by
  unfold Method.missingBy? Method.missing? Method.subjects
  cases declaring : method.declaring.missing with
  | true => simp [declaring, MissingType.missing]
  | false =>
      have same : MissingType.missing ∘ inSignature method = id := funext told
      simp [List.find?_cons, declaring, same]

theorem missing_subject (finding : Finding) (giving : finding.mayGiveWay = true) :
    finding.missing?.map MissingType.missing = finding.subjects.find? (·.missing) := by
  cases finding with
  | typeMismatch actual expected =>
      have same : MissingType.missing ∘ MissingType.type = id := rfl
      simp only [Finding.missing?, Finding.subjects, Option.map_map, same, Option.map_id_apply]
  | undefinedMethod method | parameterMismatch method _ | undefinedConstructor method
  | constructorMismatch method _ => exact missing_by_subject method _ fun _ => rfl
  | _ => cases giving

theorem code_tells_missing (finding : Finding) (giving : finding.mayGiveWay = true) :
    finding.code.tellsMissing = finding.missing?.isSome := by
  unfold Finding.code
  cases finding.missing? with
  | none => exact own_code_tells finding giving
  | some missing => exact missing_code_tells missing

theorem missing_told_last (missing : MissingType) (anchor : Anchor) (scanner : Scanner) :
    ∃ description : Description, (missing.render anchor scanner).1 = some description ∧
      description.arguments.getLast? = some (write .full missing.missing.leaf) ∧
      description.messageArguments.getLast? = some (write .brief missing.missing.leaf) := by
  cases missing with
  | type _ | inMethod _ _ | inConstructor _ _ => exact ⟨_, rfl, rfl, rfl⟩

theorem missing_subject_told (report : Report) (giving : report.finding.mayGiveWay = true) :
    (report.code.tellsMissing = true ↔ ∃ type ∈ report.finding.subjects, type.missing = true) ∧
    (report.code.tellsMissing = true → ∀ (options : Options) (scanner : Scanner),
      ∃ (description : Description) (type : JavaType),
        (report.describe? options scanner).1 = some description ∧
        report.finding.subjects.find? (·.missing) = some type ∧
        description.arguments.getLast? = some (write .full type.leaf) ∧
        description.messageArguments.getLast? = some (write .brief type.leaf)) := by
  have told : report.code.tellsMissing = report.finding.missing?.isSome := code_tells_missing report.finding giving
  have first := missing_subject report.finding giving
  constructor
  · rw [told, ← List.find?_isSome, ← first, Option.isSome_map]
  · intro tells options scanner
    rw [told] at tells
    obtain ⟨missing, found⟩ := Option.isSome_iff_exists.mp tells
    obtain ⟨description, rendered, full, brief⟩ := missing_told_last missing report.anchor scanner
    refine ⟨description, missing.missing, ?_, ?_, full, brief⟩
    · unfold Report.describe?
      rw [found]
      exact rendered
    · rw [← first, found]
      rfl

-- The first of two missing parameters is told, an array without its dimension; what was supplied is not.
theorem missing_parameter_told :
    let gone (name : String) : JavaType := { JavaType.named .reference "com.acme" [name] with missing := true }
    let order : JavaType := .named .reference "com.acme" ["Order"]
    let report : Report :=
      ⟨.constructorMismatch (.construct order [{ gone "Item" with dimensions := 1 }, gone "Price"]) [.nullType],
        .allocation ⟨4, 20⟩ ⟨8, 12⟩⟩
    report.code.tellsMissing = true ∧ ∀ (options : Options) (scanner : Scanner), ∃ description : Description,
      (report.describe? options scanner).1 = some description ∧
        description.arguments.getLast? = some "com.acme.Item" ∧
        description.messageArguments.getLast? = some "Item" := by
  intro gone order report
  obtain ⟨told, last⟩ := missing_subject_told report rfl
  have tells : report.code.tellsMissing = true :=
    told.mpr ⟨{ gone "Item" with dimensions := 1 }, .tail _ (.tail _ (.head _)), rfl⟩
  refine ⟨tells, fun options scanner => ?_⟩
  obtain ⟨description, type, described, first, full, brief⟩ := last tells options scanner
  cases Option.some.inj first
  refine ⟨description, described, full.trans ?_, brief.trans ?_⟩ <;> decide +kernel

-- That no finding that carries a missing type is told in its own right does not hold of type arguments,
-- nor of arguments that were supplied.
theorem carried_missing_untold :
    let gone : JavaType := { JavaType.named .reference "com.acme" ["Gone"] with missing := true }
    let list : JavaType := { JavaType.named .reference "java.util" ["List"] with arguments := [gone] }
    let string : JavaType := .named .reference "java.lang" ["String"]
    let add (parameter : JavaType) : Method :=
      ⟨.named .reference "com.acme" ["Store"], "add", [parameter], .primitive "void", false, false⟩
    let untold (finding : Finding) :=
      finding.mayGiveWay = true ∧ gone ∈ finding.carried ∧ gone.missing = true ∧ finding.code.tellsMissing = false
    untold (.typeMismatch list string) ∧ untold (.undefinedMethod (add list)) ∧
      untold (.parameterMismatch (add string) [gone]) := by
  intro gone list string add untold
  have nested : gone ∈ list.parts := list.argument_part gone (.head _)
  refine ⟨⟨rfl, ?_, rfl, rfl⟩, ⟨rfl, ?_, rfl, rfl⟩, ⟨rfl, ?_, rfl, rfl⟩⟩
  · exact List.mem_flatMap.mpr ⟨list, .head _, nested⟩
  · exact List.mem_flatMap.mpr ⟨list, .tail _ (.tail _ (.head _)), nested⟩
  · exact List.mem_flatMap.mpr ⟨gone, .tail _ (.tail _ (.tail _ (.head _))), gone.self_part⟩

end JavaDiagnostics
