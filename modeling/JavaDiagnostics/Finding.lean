import JavaDiagnostics.Code
import JavaDiagnostics.Source.Anchor
import JavaDiagnostics.Symbol.Member

/-!
Findings of the analysis: what is wrong, with the symbols involved, and the codes of their problems. A
finding about symbols whose types are missing is told as the missing type, so that one missing type makes
no cascade of errors.
-/

set_option autoImplicit false

namespace JavaDiagnostics

structure DocTarget where
  visibility : Visibility
  overriding : Bool
deriving DecidableEq, Repr

inductive Finding where
  | undefinedType (type : JavaType)
  | hiddenType (type : JavaType)
  | deprecatedType (type : JavaType) (terminally : Bool)
  | typeMismatch (actual expected : JavaType)
  | rawType (type : JavaType)
  | unnecessaryCast (value target : JavaType)
  | undefinedMethod (method : Method)
  | hiddenMethod (method : Method)
  | deprecatedMethod (method : Method) (terminally : Bool)
  | parameterMismatch (method : Method) (arguments : List JavaType)
  | staticMethodThroughInstance (method : Method)
  | unusedTypeArguments (method : Method) (typeArguments : List JavaType)
  | undefinedConstructor (method : Method)
  | constructorMismatch (method : Method) (arguments : List JavaType)
  /-- The segment is the part of a dotted name that names the field. -/
  | undefinedField (field : Field) (segment : Option Nat)
  | hiddenField (field : Field) (segment : Option Nat)
  | deprecatedField (field : Field) (terminally : Bool) (segment : Option Nat)
  | staticFieldThroughInstance (field : Field) (segment : Option Nat)
  | unusedLocal (field : Field)
  | unusedArgument (field : Field)
  | localHidesField (hider field : Field)
  | fieldHidesField (field hidden : Field)
  | unusedImport (declared : Import)
  | importNotFound (declared : Import)
  | missingComment (target : DocTarget)
  | missingParamTag (name : String) (target : DocTarget)
  | missingReturnTag (target : DocTarget)
  | missingThrowsTag (exception : JavaType) (target : DocTarget)
  | invalidTag
  | undefinedFieldReference (name : String) (target : DocTarget)
  | undefinedTypeReference (type : JavaType) (target : DocTarget)
  /-- An unexpected token, and what was expected if that is known. -/
  | parsingError (token : String) (expected : Option String)
  | unhandledToken (token : String)
  | unusedToken (token : String)
  | task (tag message : String)
  /-- Code too large for a class file, of the static initializer if no method is given. -/
  | codeTooLarge (method : Option Method)
  /-- Any problem of the catalog, with its arguments given. -/
  | coded (code : Code) (arguments messageArguments : List String)

-- What a finding says instead when a type is missing.
inductive MissingType where
  | type (type : JavaType)
  | inMethod (method : Method) (type : JavaType)
  | inConstructor (method : Method) (type : JavaType)

namespace MissingType

def code : MissingType → Code
  | type _ => .undefinedType
  | inMethod _ _ => .missingTypeInMethod
  | inConstructor _ _ => .missingTypeInConstructor

end MissingType

-- The missing type of a method: the type that declares it comes before those of its signature.
def Method.missingBy? (method : Method) (inSignature : Method → JavaType → MissingType) :
    Option MissingType :=
  if method.declaring.missing then some (.type method.declaring)
  else method.missing?.map (inSignature method)

namespace Finding

def missing? : Finding → Option MissingType
  | typeMismatch actual expected => ([actual, expected].find? (·.missing)).map .type
  | undefinedMethod method => method.missingBy? .inMethod
  | parameterMismatch method _ => method.missingBy? .inMethod
  | undefinedConstructor method => method.missingBy? .inConstructor
  | constructorMismatch method _ => method.missingBy? .inConstructor
  | _ => none

def ownCode : Finding → Code
  | undefinedType _ => .undefinedType
  | hiddenType _ => .notVisibleType
  | deprecatedType _ terminally => if terminally then .removedType else .deprecatedType
  | typeMismatch _ _ => .typeMismatch
  | rawType _ => .rawType
  | unnecessaryCast _ _ => .unnecessaryCast
  | undefinedMethod _ => .undefinedMethod
  | hiddenMethod _ => .notVisibleMethod
  | deprecatedMethod method terminally =>
      if method.isConstructor then
        if terminally then .removedConstructor else .deprecatedConstructor
      else if terminally then .removedMethod else .deprecatedMethod
  | parameterMismatch _ _ => .parameterMismatch
  | staticMethodThroughInstance _ => .staticMethodThroughInstance
  | unusedTypeArguments _ _ => .unusedTypeArguments
  | undefinedConstructor _ => .undefinedConstructor
  | constructorMismatch _ _ => .constructorParameterMismatch
  | undefinedField _ _ => .undefinedField
  | hiddenField _ _ => .notVisibleField
  | deprecatedField _ terminally _ => if terminally then .removedField else .deprecatedField
  | staticFieldThroughInstance _ _ => .staticFieldThroughInstance
  | unusedLocal _ => .unusedLocal
  | unusedArgument _ => .unusedArgument
  | localHidesField _ _ => .localHidesField
  | fieldHidesField _ _ => .fieldHidesField
  | unusedImport _ => .unusedImport
  | importNotFound _ => .importNotFound
  | missingComment _ => .javadocMissingComment
  | missingParamTag _ _ => .javadocMissingParamTag
  | missingReturnTag _ => .javadocMissingReturnTag
  | missingThrowsTag _ _ => .javadocMissingThrowsTag
  | invalidTag => .javadocInvalidTag
  | undefinedFieldReference _ _ => .javadocUndefinedField
  | undefinedTypeReference _ _ => .javadocUndefinedType
  | parsingError _ expected => if expected.isSome then .parsingError else .parsingErrorAlone
  | unhandledToken _ => .unhandledWarningToken
  | unusedToken _ => .unusedWarningToken
  | task _ _ => .task
  | codeTooLarge none => .initializerTooLarge
  | codeTooLarge (some method) => if method.isConstructor then .constructorTooLarge else .methodTooLarge
  | coded code _ _ => code

def code (finding : Finding) : Code :=
  match finding.missing? with
  | some missing => missing.code
  | none => finding.ownCode

end Finding

structure Report where
  finding : Finding
  anchor : Anchor

def Report.code (report : Report) : Code := report.finding.code

end JavaDiagnostics
