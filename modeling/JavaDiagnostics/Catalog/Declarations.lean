import JavaDiagnostics.Catalog.Entry

/-!
Problems of declarations, imports, inheritance and generated code.
-/

set_option autoImplicit false

namespace JavaDiagnostics.Catalog

open Entry

def access : List Entry :=
  [governed .discouragedReference 0x01000118 "DiscouragedReference" "Discouraged access: {0}",
   governed .forbiddenReference 0x01000133 "ForbiddenReference" "Access restriction: {0}"]

def declarations : List Entry :=
  [plain 0x0100012C "InterfaceCannotHaveInitializers" "The interface {0} cannot define an initializer",
   plain 0x0100012D "DuplicateModifierForType" "Duplicate modifier for the type {0}",
   plain 0x0100012E "IllegalModifierForClass"
     "Illegal modifier for the class {0}; only public, abstract & final are permitted",
   plain 0x0100012F "IllegalModifierForInterface"
     "Illegal modifier for the interface {0}; only public & abstract are permitted",
   plain 0x01000130 "IllegalModifierForMemberClass"
     "Illegal modifier for the member class {0}; only public, protected, private, static, abstract & final are permitted",
   plain 0x01000131 "IllegalModifierForMemberInterface"
     "Illegal modifier for the member interface {0}; only public, protected, private, static & abstract are permitted",
   plain 0x01000132 "IllegalModifierForLocalClass"
     "Illegal modifier for the local class {0}; only abstract or final is permitted",
   plain 0x01000134 "IllegalModifierCombinationFinalAbstractForClass"
     "The class {0} can be either abstract or final, not both",
   plain 0x01000138 "SuperclassMustBeAClass"
     "The type {0} cannot be the superclass of {1}; a superclass must be a class",
   plain 0x01000139 "ClassExtendFinalClass" "The type {1} cannot subclass the final class {0}",
   plain 0x0100013A "DuplicateSuperInterface" "Duplicate interface {0} for the type {1}",
   plain 0x0100013B "SuperInterfaceMustBeAnInterface"
     "The type {0} cannot be a superinterface of {1}; a superinterface must be an interface",
   plain 0x0100013C "HierarchyCircularitySelfReference"
     "Cycle detected: the type {0} cannot extend/implement itself or one of its own member types",
   plain 0x0100013D "HierarchyCircularity"
     "Cycle detected: a cycle exists in the type hierarchy between {0} and {1}",
   plain 0x0100013E "HidingEnclosingType" "The nested type {0} cannot hide an enclosing type",
   plain 0x0100013F "DuplicateNestedType" "The type {0} is already defined",
   plain 0x01000140 "CannotThrowType"
     "No exception of type {0} can be thrown; an exception type must be a subclass of Throwable",
   plain 0x01000141 "PackageCollidesWithType" "The package {0} collides with a type",
   ruled .alwaysWarning 0x01000142 "TypeCollidesWithPackage" "The type {1} collides with a package",
   plain 0x01000143 "DuplicateTypes" "The type {1} is already defined",
   plain .classPathIncomplete "IsClassPathCorrect"
     "The type {0} cannot be resolved. It is indirectly referenced from required .class files",
   plain 0x01000145 "PublicClassMustMatchFileName"
     "The public type {1} must be defined in its own file",
   plain 0x20000146 "MustSpecifyPackage"
     "A package must be specified in {0} or a default package created",
   plain 0x01000147 "HierarchyHasProblems" "The hierarchy of the type {0} is inconsistent",
   plain 0x20000148 "PackageIsNotExpectedPackage"
     "The declared package \"{0}\" does not match the expected package \"{1}\"",
   plain 0x20000149 "ObjectCannotHaveSuperTypes"
     "The type java.lang.Object cannot have a superclass or superinterfaces",
   plain 0x2000014A "ObjectMustBeClass" "The type java.lang.Object must be a class",
   plain 0x0100014A "SuperclassNotFound" "{0} cannot be resolved to a type",
   plain 0x0100014B "SuperclassNotVisible" "The type {0} is not visible",
   plain 0x0100014C "SuperclassAmbiguous" "The type {0} is ambiguous",
   plain 0x0100014F "InterfaceNotFound" "{0} cannot be resolved to a type",
   plain 0x01000150 "InterfaceNotVisible" "The type {0} is not visible",
   plain 0x01000151 "InterfaceAmbiguous" "The type {0} is ambiguous",
   governed .redundantSuperinterface 0x01000155 "RedundantSuperinterface"
     "Redundant superinterface {0} for the type {1}, already defined by {2}",
   governed .shouldImplementHashcode 0x01000156 "ShouldImplementHashcode"
     "The type {0} should also implement hashCode() since it overrides Object.equals()",
   plain 0x01000157 "AbstractMethodsInConcreteClass"
     "The type {0} must be an abstract class to define abstract methods"]

def imports : List Entry :=
  [plain 0x10000181 "ConflictingImport" "The import {0} conflicts with a type defined in the same file",
   plain 0x10000182 "DuplicateImport" "The import {0} is a duplicate",
   plain 0x10000183 "CannotImportPackage" "Only a type can be imported. {0} resolves to a package",
   governed .unusedImport .unusedImport "UnusedImport" "The import {0} is never used",
   plain .importNotFound "ImportNotFound" "The import {0} cannot be resolved",
   plain 0x10000187 "ImportNotVisible" "The type {0} is not visible",
   plain 0x10000188 "ImportAmbiguous" "The import {0} is ambiguous",
   plain 0x10000189 "ImportInternalNameProvided" "The import {0} cannot be resolved",
   plain 0x1000018A "ImportInheritedNameHidesEnclosingName" "The import {0} cannot be resolved"]

def locals : List Entry :=
  [plain 0x0400018B "DuplicateModifierForVariable" "Duplicate modifier for the variable {0}",
   plain 0x0400018C "IllegalModifierForVariable"
     "Illegal modifier for the variable {0}; only final is permitted"]

def inheritance : List Entry :=
  [plain 0x04000190 "AbstractMethodMustBeImplemented"
     "The type {0} must implement the inherited abstract method {1}",
   plain 0x04000191 "FinalMethodCannotBeOverridden" "Cannot override the final method from {0}",
   plain 0x04000192 "IncompatibleExceptionInThrowsClause"
     "Exception {0} is not compatible with throws clause in {1}",
   plain 0x04000193 "IncompatibleExceptionInInheritedMethodThrowsClause"
     "Exception {0} in throws clause of {1} is not compatible with {2}",
   plain 0x04000194 "IncompatibleReturnType" "The return type is incompatible with {0}",
   plain 0x04000195 "InheritedMethodReducesVisibility"
     "The inherited method {0} cannot hide the public abstract method in {1}",
   plain 0x04000196 "CannotOverrideAStaticMethodWithAnInstanceMethod"
     "This instance method cannot override the static method from {0}",
   plain 0x04000197 "CannotHideAnInstanceMethodWithAStaticMethod"
     "This static method cannot hide the instance method from {0}",
   plain 0x04000198 "StaticInheritedMethodConflicts"
     "The static method {0} conflicts with the abstract method in {1}",
   plain 0x04000199 "MethodReducesVisibility"
     "Cannot reduce the visibility of the inherited method from {0}",
   governed .overriddenPackageDefaultMethod 0x0400019A "OverridingNonVisibleMethod"
     "The method {0} does not override the inherited method from {1} since it is private to a different package",
   plain 0x0400019B "AbstractMethodCannotBeOverridden"
     "Cannot override the abstract method {0} from {1}",
   governed .usingDeprecatedApi 0x0400019C "OverridingDeprecatedMethod"
     "The method {0} overrides a deprecated method from {1}",
   governed .incompatibleNonInheritedInterfaceMethod 0x0400019D "IncompatibleReturnTypeForNonInheritedInterfaceMethod"
     "The return type is incompatible with {0}, thus this interface cannot be implemented",
   governed .incompatibleNonInheritedInterfaceMethod 0x0400019E "IncompatibleExceptionInThrowsClauseForNonInheritedInterfaceMethod"
     "Exception {0} in throws clause of {1} is not compatible with {2}, thus this interface cannot be implemented",
   plain 0x0400019F "IllegalVararg" "Extended dimensions are illegal for a variable argument",
   governed .overridingMethodWithoutSuperInvocation 0x040001A0 "OverridingMethodWithoutSuperInvocation"
     "The method {0} is overriding a method without making a super invocation",
   governed .missingSynchronizedModifierInInheritedMethod 0x040001A1 "MissingSynchronizedModifierInInheritedMethod"
     "The method {0} is overriding a synchronized method without being synchronized",
   plain 0x040001A2 "AbstractMethodMustBeImplementedOverConcreteMethod"
     "The inherited method {0} cannot hide the public abstract method in {1}",
   plain 0x040001A3 "InheritedIncompatibleReturnType"
     "The return types are incompatible for the inherited methods {0}"]

def limits : List Entry :=
  [plain 0x200001AE "TooManyConstantsInConstantPool"
     "The type generates a class file with more than 65535 constants",
   plain 0x200001AF "TooManyBytesForStringConstant"
     "The string constant in type {0} exceeds the limit of 65535 bytes of UTF8 encoding",
   plain 0x200001B0 "TooManyFields" "Too many fields for type {0}. Maximum is 65535",
   plain 0x200001B1 "TooManyMethods" "Too many methods for type {0}. Maximum is 65535"]

def identifiers : List Entry :=
  [governed .assertUsedAsAnIdentifier 0x200001B8 "UseAssertAsAnIdentifier"
     "'assert' should not be used as an identifier, since it is a reserved keyword from source level 1.4 on",
   governed .enumUsedAsAnIdentifier 0x200001B9 "UseEnumAsAnIdentifier"
     "'enum' should not be used as an identifier, since it is a reserved keyword from source level 1.5 on",
   plain 0x600001BA "EnumConstantsCannotBeSurroundedByParenthesis"
     "Enum constants cannot be surrounded by parenthesis",
   ruled .underscore 0x600001BB "IllegalUseOfUnderscoreAsAnIdentifier"
     "'_' should not be used as an identifier, since it is a reserved keyword from source level 1.8 on"]

end JavaDiagnostics.Catalog
