import JavaDiagnostics.Category
import JavaDiagnostics.Severity.Level

/-!
Irritants: the switches by which a user sets the level of optional problems. Each has a settings key, a
level that holds without a setting, perhaps a category, and perhaps the token by which a warning of its
problems is suppressed in the source.
-/

set_option autoImplicit false

namespace JavaDiagnostics

inductive Irritant where
  | methodWithConstructorName
  | overriddenPackageDefaultMethod
  | usingDeprecatedApi
  | maskedCatchBlock
  | unusedLocalVariable
  | unusedArgument
  | unusedExceptionParameter
  | noImplicitStringConversion
  | accessEmulation
  | nonExternalizedString
  | assertUsedAsAnIdentifier
  | enumUsedAsAnIdentifier
  | unusedImport
  | nonStaticAccessToStatic
  | tasks
  | noEffectAssignment
  | incompatibleNonInheritedInterfaceMethod
  | unusedPrivateMember
  | localVariableHiding
  | fieldHiding
  | typeHiding
  | accidentalBooleanAssign
  | emptyStatement
  | missingJavadocComments
  | missingJavadocTags
  | invalidJavadoc
  | unqualifiedFieldAccess
  | unusedDeclaredThrownException
  | finallyBlockNotCompleting
  | unnecessaryTypeCheck
  | undocumentedEmptyBlock
  | indirectStaticAccess
  | unnecessaryElse
  | uncheckedTypeOperation
  | rawTypeReference
  | finalParameterBound
  | missingSerialVersion
  | forbiddenReference
  | discouragedReference
  | varargsArgumentNeedCast
  | nullReference
  | potentialNullReference
  | redundantNullCheck
  | autoBoxing
  | annotationSuperInterface
  | missingOverrideAnnotations
  | missingDeprecatedAnnotations
  | incompleteEnumSwitch
  | missingDefaultCase
  | unhandledWarningToken
  | unusedWarningToken
  | unusedLabel
  | parameterAssignment
  | fallthroughCase
  | overridingMethodWithoutSuperInvocation
  | unusedTypeArguments
  | redundantSuperinterface
  | comparingIdentical
  | missingSynchronizedModifierInInheritedMethod
  | shouldImplementHashcode
  | deadCode
  | unusedObjectAllocation
  | methodCanBeStatic
  | methodCanBePotentiallyStatic
  | redundantSpecificationOfTypeArguments
  | unclosedCloseable
  | potentiallyUnclosedCloseable
  | explicitlyClosedAutoCloseable
  | nullSpecViolation
  | nullAnnotationInferenceConflict
  | nullUncheckedConversion
  | redundantNullAnnotations
  | missingNonNullByDefaultAnnotations
  | unusedTypeParameter
  | unlikelyCollectionMethodArgumentType
  | unlikelyEqualsArgumentType
  | usingTerminallyDeprecatedApi
deriving DecidableEq, Repr

namespace Irritant

def all : List Irritant :=
  [methodWithConstructorName, overriddenPackageDefaultMethod, usingDeprecatedApi, maskedCatchBlock,
   unusedLocalVariable, unusedArgument, unusedExceptionParameter, noImplicitStringConversion,
   accessEmulation, nonExternalizedString, assertUsedAsAnIdentifier, enumUsedAsAnIdentifier,
   unusedImport, nonStaticAccessToStatic, tasks, noEffectAssignment,
   incompatibleNonInheritedInterfaceMethod, unusedPrivateMember, localVariableHiding, fieldHiding,
   typeHiding, accidentalBooleanAssign, emptyStatement, missingJavadocComments, missingJavadocTags,
   invalidJavadoc, unqualifiedFieldAccess, unusedDeclaredThrownException, finallyBlockNotCompleting,
   unnecessaryTypeCheck, undocumentedEmptyBlock, indirectStaticAccess, unnecessaryElse,
   uncheckedTypeOperation, rawTypeReference, finalParameterBound, missingSerialVersion,
   forbiddenReference, discouragedReference, varargsArgumentNeedCast, nullReference,
   potentialNullReference, redundantNullCheck, autoBoxing, annotationSuperInterface,
   missingOverrideAnnotations, missingDeprecatedAnnotations, incompleteEnumSwitch, missingDefaultCase,
   unhandledWarningToken, unusedWarningToken, unusedLabel, parameterAssignment, fallthroughCase,
   overridingMethodWithoutSuperInvocation, unusedTypeArguments, redundantSuperinterface,
   comparingIdentical, missingSynchronizedModifierInInheritedMethod, shouldImplementHashcode,
   deadCode, unusedObjectAllocation, methodCanBeStatic, methodCanBePotentiallyStatic,
   redundantSpecificationOfTypeArguments, unclosedCloseable, potentiallyUnclosedCloseable,
   explicitlyClosedAutoCloseable, nullSpecViolation, nullAnnotationInferenceConflict,
   nullUncheckedConversion, redundantNullAnnotations, missingNonNullByDefaultAnnotations,
   unusedTypeParameter, unlikelyCollectionMethodArgumentType, unlikelyEqualsArgumentType,
   usingTerminallyDeprecatedApi]

structure Info where
  name : String
  key : String
  category : Option Category
  level : Level
  token : Option String

def problemKey (option : String) : String := "org.eclipse.jdt.core.compiler.problem." ++ option

def toInfo : Irritant → Info
  | methodWithConstructorName =>
      ⟨"MethodWithConstructorName", problemKey "methodWithConstructorName",
       some .codeStyle, .warning, none⟩
  | overriddenPackageDefaultMethod =>
      ⟨"OverriddenPackageDefaultMethod", problemKey "overridingPackageDefaultMethod",
       some .nameShadowing, .warning, none⟩
  | usingDeprecatedApi =>
      ⟨"UsingDeprecatedAPI", problemKey "deprecation", some .deprecation, .warning, some "deprecation"⟩
  | maskedCatchBlock =>
      ⟨"MaskedCatchBlock", problemKey "hiddenCatchBlock",
       some .programmingProblem, .warning, some "hiding"⟩
  | unusedLocalVariable =>
      ⟨"UnusedLocalVariable", problemKey "unusedLocal", some .unnecessaryCode, .warning, some "unused"⟩
  | unusedArgument =>
      ⟨"UnusedArgument", problemKey "unusedParameter", some .unnecessaryCode, .ignore, some "unused"⟩
  | unusedExceptionParameter =>
      ⟨"UnusedExceptionParameter", problemKey "unusedExceptionParameter",
       some .unnecessaryCode, .ignore, some "unused"⟩
  | noImplicitStringConversion =>
      ⟨"NoImplicitStringConversion", problemKey "noImplicitStringConversion",
       some .programmingProblem, .warning, none⟩
  | accessEmulation =>
      ⟨"AccessEmulation", problemKey "syntheticAccessEmulation",
       some .codeStyle, .ignore, some "synthetic-access"⟩
  | nonExternalizedString =>
      ⟨"NonExternalizedString", problemKey "nonExternalizedStringLiteral",
       some .externalization, .ignore, some "nls"⟩
  | assertUsedAsAnIdentifier =>
      ⟨"AssertUsedAsAnIdentifier", problemKey "assertIdentifier", some .codeStyle, .warning, none⟩
  | enumUsedAsAnIdentifier =>
      ⟨"EnumUsedAsAnIdentifier", problemKey "enumIdentifier", some .codeStyle, .warning, none⟩
  | unusedImport =>
      ⟨"UnusedImport", problemKey "unusedImport", some .unnecessaryCode, .warning, some "unused"⟩
  | nonStaticAccessToStatic =>
      ⟨"NonStaticAccessToStatic", problemKey "staticAccessReceiver",
       some .codeStyle, .warning, some "static-access"⟩
  | tasks => ⟨"Tasks", problemKey "tasks", some .unspecified, .warning, none⟩
  | noEffectAssignment =>
      ⟨"NoEffectAssignment", problemKey "noEffectAssignment", some .programmingProblem, .warning, none⟩
  | incompatibleNonInheritedInterfaceMethod =>
      ⟨"IncompatibleNonInheritedInterfaceMethod", problemKey "incompatibleNonInheritedInterfaceMethod",
       some .nameShadowing, .warning, none⟩
  | unusedPrivateMember =>
      ⟨"UnusedPrivateMember", problemKey "unusedPrivateMember",
       some .unnecessaryCode, .warning, some "unused"⟩
  | localVariableHiding =>
      ⟨"LocalVariableHiding", problemKey "localVariableHiding",
       some .nameShadowing, .ignore, some "hiding"⟩
  | fieldHiding =>
      ⟨"FieldHiding", problemKey "fieldHiding", some .nameShadowing, .ignore, some "hiding"⟩
  | typeHiding =>
      ⟨"TypeHiding", problemKey "typeParameterHiding", some .nameShadowing, .warning, some "hiding"⟩
  | accidentalBooleanAssign =>
      ⟨"AccidentalBooleanAssign", problemKey "possibleAccidentalBooleanAssignment",
       some .programmingProblem, .ignore, none⟩
  | emptyStatement =>
      ⟨"EmptyStatement", problemKey "emptyStatement", some .programmingProblem, .ignore, none⟩
  | missingJavadocComments =>
      ⟨"MissingJavadocComments", problemKey "missingJavadocComments",
       some .javadoc, .ignore, some "javadoc"⟩
  | missingJavadocTags =>
      ⟨"MissingJavadocTags", problemKey "missingJavadocTags", some .javadoc, .ignore, some "javadoc"⟩
  | invalidJavadoc =>
      ⟨"InvalidJavadoc", problemKey "invalidJavadoc", some .javadoc, .ignore, some "javadoc"⟩
  | unqualifiedFieldAccess =>
      ⟨"UnqualifiedFieldAccess", problemKey "unqualifiedFieldAccess",
       some .codeStyle, .ignore, some "unqualified-field-access"⟩
  | unusedDeclaredThrownException =>
      ⟨"UnusedDeclaredThrownException", problemKey "unusedDeclaredThrownException",
       some .unnecessaryCode, .ignore, some "unused"⟩
  | finallyBlockNotCompleting =>
      ⟨"FinallyBlockNotCompleting", problemKey "finallyBlockNotCompletingNormally",
       some .programmingProblem, .warning, some "finally"⟩
  | unnecessaryTypeCheck =>
      ⟨"UnnecessaryTypeCheck", problemKey "unnecessaryTypeCheck",
       some .unnecessaryCode, .ignore, some "cast"⟩
  | undocumentedEmptyBlock =>
      ⟨"UndocumentedEmptyBlock", problemKey "undocumentedEmptyBlock", some .codeStyle, .ignore, none⟩
  | indirectStaticAccess =>
      ⟨"IndirectStaticAccess", problemKey "indirectStaticAccess",
       some .codeStyle, .ignore, some "static-access"⟩
  | unnecessaryElse =>
      ⟨"UnnecessaryElse", problemKey "unnecessaryElse", some .unnecessaryCode, .ignore, none⟩
  | uncheckedTypeOperation =>
      ⟨"UncheckedTypeOperation", problemKey "uncheckedTypeOperation",
       some .generics, .warning, some "unchecked"⟩
  | rawTypeReference =>
      ⟨"RawTypeReference", problemKey "rawTypeReference", some .generics, .warning, some "rawtypes"⟩
  | finalParameterBound =>
      ⟨"FinalParameterBound", problemKey "finalParameterBound", some .codeStyle, .warning, none⟩
  | missingSerialVersion =>
      ⟨"MissingSerialVersion", problemKey "missingSerialVersion",
       some .programmingProblem, .warning, some "serial"⟩
  | forbiddenReference =>
      ⟨"ForbiddenReference", problemKey "forbiddenReference",
       some .restrictedApi, .error, some "restriction"⟩
  | discouragedReference =>
      ⟨"DiscouragedReference", problemKey "discouragedReference",
       some .restrictedApi, .warning, some "restriction"⟩
  | varargsArgumentNeedCast =>
      ⟨"VarargsArgumentNeedCast", problemKey "varargsArgumentNeedCast",
       some .programmingProblem, .warning, none⟩
  | nullReference =>
      ⟨"NullReference", problemKey "nullReference", some .programmingProblem, .warning, some "null"⟩
  | potentialNullReference =>
      ⟨"PotentialNullReference", problemKey "potentialNullReference",
       some .programmingProblem, .ignore, some "null"⟩
  | redundantNullCheck =>
      ⟨"RedundantNullCheck", problemKey "redundantNullCheck",
       some .programmingProblem, .ignore, some "null"⟩
  | autoBoxing => ⟨"AutoBoxing", problemKey "autoboxing", some .codeStyle, .ignore, some "boxing"⟩
  | annotationSuperInterface =>
      ⟨"AnnotationSuperInterface", problemKey "annotationSuperInterface",
       some .codeStyle, .warning, none⟩
  | missingOverrideAnnotations =>
      ⟨"MissingOverrideAnnotation", problemKey "missingOverrideAnnotation",
       some .codeStyle, .ignore, none⟩
  | missingDeprecatedAnnotations =>
      ⟨"MissingDeprecatedAnnotation", problemKey "missingDeprecatedAnnotation",
       some .codeStyle, .ignore, some "dep-ann"⟩
  | incompleteEnumSwitch =>
      ⟨"IncompleteEnumSwitch", problemKey "incompleteEnumSwitch",
       some .programmingProblem, .ignore, some "incomplete-switch"⟩
  | missingDefaultCase =>
      ⟨"MissingDefaultCase", problemKey "missingDefaultCase",
       some .programmingProblem, .ignore, some "incomplete-switch"⟩
  | unhandledWarningToken =>
      ⟨"UnhandledWarningToken", problemKey "unhandledWarningToken",
       some .unnecessaryCode, .warning, none⟩
  | unusedWarningToken =>
      ⟨"UnusedWarningToken", problemKey "unusedWarningToken",
       some .unnecessaryCode, .warning, some "unused"⟩
  | unusedLabel =>
      ⟨"UnusedLabel", problemKey "unusedLabel", some .unnecessaryCode, .warning, some "unused"⟩
  | parameterAssignment =>
      ⟨"ParameterAssignment", problemKey "parameterAssignment", some .codeStyle, .ignore, none⟩
  | fallthroughCase =>
      ⟨"FallthroughCase", problemKey "fallthroughCase",
       some .programmingProblem, .ignore, some "fallthrough"⟩
  | overridingMethodWithoutSuperInvocation =>
      ⟨"OverridingMethodWithoutSuperInvocation", problemKey "overridingMethodWithoutSuperInvocation",
       some .programmingProblem, .ignore, some "super"⟩
  | unusedTypeArguments =>
      ⟨"UnusedTypeArguments", problemKey "unusedTypeArgumentsForMethodInvocation",
       none, .warning, some "unused"⟩
  | redundantSuperinterface =>
      ⟨"RedundantSuperinterface", problemKey "redundantSuperinterface",
       some .unnecessaryCode, .ignore, some "unused"⟩
  | comparingIdentical =>
      ⟨"ComparingIdentical", problemKey "comparingIdentical", some .programmingProblem, .warning, none⟩
  | missingSynchronizedModifierInInheritedMethod =>
      ⟨"MissingSynchronizedModifierInInheritedMethod", problemKey "missingSynchronizedOnInheritedMethod",
       some .programmingProblem, .ignore, some "sync-override"⟩
  | shouldImplementHashcode =>
      ⟨"ShouldImplementHashcode", problemKey "missingHashCodeMethod",
       some .programmingProblem, .ignore, none⟩
  | deadCode =>
      ⟨"DeadCode", problemKey "deadCode", some .programmingProblem, .warning, some "unused"⟩
  | unusedObjectAllocation =>
      ⟨"UnusedObjectAllocation", problemKey "unusedObjectAllocation",
       some .programmingProblem, .ignore, some "unused"⟩
  | methodCanBeStatic =>
      ⟨"MethodCanBeStatic", problemKey "reportMethodCanBeStatic",
       some .codeStyle, .ignore, some "static-method"⟩
  | methodCanBePotentiallyStatic =>
      ⟨"MethodCanBePotentiallyStatic", problemKey "reportMethodCanBePotentiallyStatic",
       some .codeStyle, .ignore, some "static-method"⟩
  | redundantSpecificationOfTypeArguments =>
      ⟨"RedundantSpecificationOfTypeArguments", problemKey "redundantSpecificationOfTypeArguments",
       some .unnecessaryCode, .ignore, some "unused"⟩
  | unclosedCloseable =>
      ⟨"UnclosedCloseable", problemKey "unclosedCloseable",
       some .programmingProblem, .warning, some "resource"⟩
  | potentiallyUnclosedCloseable =>
      ⟨"PotentiallyUnclosedCloseable", problemKey "potentiallyUnclosedCloseable",
       some .programmingProblem, .ignore, some "resource"⟩
  | explicitlyClosedAutoCloseable =>
      ⟨"ExplicitlyClosedAutoCloseable", problemKey "explicitlyClosedAutoCloseable",
       some .codeStyle, .ignore, some "resource"⟩
  | nullSpecViolation =>
      ⟨"NullSpecViolation", problemKey "nullSpecViolation",
       some .programmingProblem, .error, some "null"⟩
  | nullAnnotationInferenceConflict =>
      ⟨"NullAnnotationInferenceConflict", problemKey "nullAnnotationInferenceConflict",
       some .programmingProblem, .error, some "null"⟩
  | nullUncheckedConversion =>
      ⟨"NullUncheckedConversion", problemKey "nullUncheckedConversion",
       some .programmingProblem, .warning, some "null"⟩
  | redundantNullAnnotations =>
      ⟨"RedundantNullAnnotation", problemKey "redundantNullAnnotation",
       some .unnecessaryCode, .warning, some "null"⟩
  | missingNonNullByDefaultAnnotations =>
      ⟨"MissingNonNullByDefaultAnnotation", "org.eclipse.jdt.core.compiler.annotation.missingNonNullByDefaultAnnotation",
       some .programmingProblem, .ignore, some "null"⟩
  | unusedTypeParameter =>
      ⟨"UnusedTypeParameter", problemKey "unusedTypeParameter",
       some .unnecessaryCode, .ignore, some "unused"⟩
  | unlikelyCollectionMethodArgumentType =>
      ⟨"UnlikelyCollectionMethodArgumentType", problemKey "unlikelyCollectionMethodArgumentType",
       some .programmingProblem, .warning, some "unlikely-arg-type"⟩
  | unlikelyEqualsArgumentType =>
      ⟨"UnlikelyEqualsArgumentType", problemKey "unlikelyEqualsArgumentType",
       some .programmingProblem, .ignore, some "unlikely-arg-type"⟩
  | usingTerminallyDeprecatedApi =>
      ⟨"UsingTerminallyDeprecatedAPI", problemKey "terminalDeprecation",
       some .deprecation, .warning, some "removal"⟩

def name (irritant : Irritant) : String := irritant.toInfo.name
def key (irritant : Irritant) : String := irritant.toInfo.key
def category (irritant : Irritant) : Option Category := irritant.toInfo.category
def defaultLevel (irritant : Irritant) : Level := irritant.toInfo.level
def token (irritant : Irritant) : Option String := irritant.toInfo.token

def read (text : String) : Option Irritant :=
  let body := Text.trim text
  all.find? fun irritant => Text.sameLetters irritant.name body || irritant.key == body

def allToken : String := "all"

def silencedBy (irritant : Irritant) (token : String) : Bool :=
  match irritant.token with
  | some own => token == allToken || own == token
  | none => false

def ofToken (token : String) : List Irritant :=
  all.filter fun irritant => irritant.silencedBy (Text.trim token)

-- Tokens are understood only without white space around them.
def isToken (token : String) : Bool :=
  token == allToken || all.any fun irritant => irritant.token == some token

end Irritant

end JavaDiagnostics
