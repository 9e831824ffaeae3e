import JavaDiagnostics.Catalog.Entry

/-!
Problems of types, variables, fields, methods and constructors as symbols.
-/

set_option autoImplicit false

namespace JavaDiagnostics.Catalog

open Entry

def types : List Entry :=
  [plain 0x01000001 "ObjectHasNoSuperclass" "java.lang.Object cannot have a superclass",
   plain .undefinedType "UndefinedType" "{0} cannot be resolved to a type",
   plain .notVisibleType "NotVisibleType" "The type {0} is not visible",
   plain 0x01000004 "AmbiguousType" "The type {0} is ambiguous",
   governed .usingDeprecatedApi .deprecatedType "UsingDeprecatedType" "The type {0} is deprecated",
   plain 0x01000006 "InternalTypeNameProvided"
     "The nested type {0} cannot be referenced using its binary name",
   governed .unusedPrivateMember 0x21000007 "UnusedPrivateType" "The type {0} is never used locally",
   plain 0x0100000F "IncompatibleTypesInEqualityOperator" "Incompatible operand types {0} and {1}",
   plain 0x01000010 "IncompatibleTypesInConditionalOperator"
     "Incompatible conditional operand types {0} and {1}",
   plain .typeMismatch "TypeMismatch" "Type mismatch: cannot convert from {0} to {1}",
   governed .indirectStaticAccess 0x21000012 "IndirectAccessToStaticType"
     "The static type {0} should be accessed directly via its declaring type {1}",
   plain 0x01000014 "MissingEnclosingInstanceForConstructorCall"
     "No enclosing instance of type {0} is available due to some intermediate constructor invocation",
   plain 0x01000015 "MissingEnclosingInstance"
     "No enclosing instance of the type {0} is accessible in scope",
   plain 0x01000016 "IncorrectEnclosingInstanceReference"
     "Illegal enclosing instance specification for type {0}",
   plain 0x01000017 "IllegalEnclosingInstanceSpecification"
     "Cannot use an expression of the type {0} as a valid enclosing instance",
   plain 0x20000018 "CannotDefineStaticInitializerInLocalType"
     "Cannot define static initializer in inner type {0}",
   plain 0x20000019 "OuterLocalMustBeFinal"
     "Cannot refer to a non-final variable {0} inside an inner class defined in a different method",
   plain 0x2000001A "CannotDefineInterfaceInLocalType"
     "The member interface {0} can only be defined inside a top-level class or interface",
   plain 0x0100001D "AnonymousClassCannotExtendFinalClass"
     "An anonymous class cannot subclass the final class {0}",
   governed .typeHiding 0x01000021 "TypeHidingType" "The type {0} is hiding the type {1}"]

def variableEntries : List Entry :=
  [plain 0x22000032 "UndefinedName" "{0} cannot be resolved",
   plain 0x20000033 "UninitializedLocalVariable" "The local variable {0} may not have been initialized",
   plain 0x20000034 "VariableTypeCannotBeVoid" "void is an invalid type for the variable {0}",
   plain 0x20000037 "RedefinedLocal" "Duplicate local variable {0}",
   plain 0x20000038 "RedefinedArgument" "Duplicate parameter {0}",
   plain 0x20000039 "DuplicateFinalLocalInitialization"
     "The final local variable {0} may already have been assigned",
   plain 0x2000003A "NonBlankFinalLocalAssignment"
     "The final local variable {0} cannot be assigned. It must be blank and not using a compound assignment",
   governed .parameterAssignment 0x2000003B "ParameterAssignment"
     "The parameter {0} should not be assigned",
   plain 0x2000003C "FinalOuterLocalAssignment"
     "The final local variable {0} cannot be assigned, since it is defined in an enclosing type",
   governed .unusedLocalVariable .unusedLocal "LocalVariableIsNeverUsed"
     "The value of the local variable {0} is not used",
   governed .unusedArgument .unusedArgument "ArgumentIsNeverUsed"
     "The value of the parameter {0} is not used",
   ruled .oversized .methodTooLarge "BytecodeExceeds64KLimit"
     "The code of method {0}({1}) is exceeding the 65535 bytes limit",
   ruled .oversized .initializerTooLarge "BytecodeExceeds64KLimitForClinit"
     "The code for the static initializer is exceeding the 65535 bytes limit",
   plain 0x20000041 "TooManyArgumentSlots"
     "Too many parameters, parameter {0} is exceeding the limit of 255 words eligible for method parameters",
   plain 0x20000042 "TooManyLocalVariableSlots"
     "Too many local variables, local variable {0} is exceeding the limit of 65535 words eligible for method local variables",
   plain 0x20000044 "TooManyArrayDimensions" "Type {0} exceeds the limit of 255 array dimensions",
   ruled .oversized .constructorTooLarge "BytecodeExceeds64KLimitForConstructor"
     "The code of constructor {0}({1}) is exceeding the 65535 bytes limit"]

def fields : List Entry :=
  [plain .undefinedField "UndefinedField" "{0} cannot be resolved or is not a field",
   plain .notVisibleField "NotVisibleField" "The field {0}.{1} is not visible",
   plain 0x02000048 "AmbiguousField" "The field {1} is ambiguous",
   governed .usingDeprecatedApi .deprecatedField "UsingDeprecatedField"
     "The field {0}.{1} is deprecated",
   plain 0x0200004A "NonStaticFieldFromStaticInvocation"
     "Cannot make a static reference to the non-static field {1}",
   plain 0x2200004B "ReferenceToForwardField" "Cannot reference a field before it is defined",
   governed .nonStaticAccessToStatic .staticFieldThroughInstance "NonStaticAccessToStaticField"
     "The static field {0}.{1} should be accessed in a static way",
   governed .unusedPrivateMember 0x2200004D "UnusedPrivateField"
     "The value of the field {0}.{1} is not used",
   governed .indirectStaticAccess 0x2200004E "IndirectAccessToStaticField"
     "The static field {0}.{1} should be accessed directly",
   governed .unqualifiedFieldAccess 0x2200004F "UnqualifiedFieldAccess"
     "Unqualified access to the field {0}.{1}",
   plain 0x02000050 "FinalFieldAssignment" "The final field {0}.{1} cannot be assigned",
   plain 0x02000051 "UninitializedBlankFinalField"
     "The blank final field {1} may not have been initialized",
   plain 0x02000052 "DuplicateBlankFinalFieldInitialization"
     "The final field {1} may already have been assigned",
   plain 0x02000053 "UnresolvedVariable" "{0} cannot be resolved to a variable"]

def shadowing : List Entry :=
  [governed .localVariableHiding 0x2000005A "LocalVariableHidingLocalVariable"
     "The local variable {0} is hiding another local variable defined in an enclosing scope",
   governed .localVariableHiding .localHidesField "LocalVariableHidingField"
     "The local variable {0} is hiding a field from type {1}",
   governed .fieldHiding 0x2200005C "FieldHidingLocalVariable"
     "The field {0}.{1} is hiding another local variable defined in an enclosing scope",
   governed .fieldHiding .fieldHidesField "FieldHidingField"
     "The field {0}.{1} is hiding a field from type {2}",
   governed .localVariableHiding 0x2000005E "ArgumentHidingLocalVariable"
     "The parameter {0} is hiding another local variable defined in an enclosing scope",
   governed .localVariableHiding 0x2000005F "ArgumentHidingField"
     "The parameter {0} is hiding a field from type {1}",
   governed .missingSerialVersion 0x20000060 "MissingSerialVersion"
     "The serializable class {0} does not declare a static final serialVersionUID field of type long"]

def methods : List Entry :=
  [plain .undefinedMethod "UndefinedMethod" "The method {1}({2}) is undefined for the type {0}",
   plain .notVisibleMethod "NotVisibleMethod" "The method {1}({2}) from the type {0} is not visible",
   plain 0x04000066 "AmbiguousMethod" "The method {1}({2}) is ambiguous for the type {0}",
   governed .usingDeprecatedApi .deprecatedMethod "UsingDeprecatedMethod"
     "The method {1}({2}) from the type {0} is deprecated",
   plain 0x04000068 "DirectInvocationOfAbstractMethod"
     "Cannot directly invoke the abstract method {1}({2}) for the type {0}",
   plain 0x04000069 "VoidMethodReturnsValue" "Void methods cannot return a value",
   plain 0x0400006A "MethodReturnsVoid" "Cannot return a void result",
   plain 0x2400006B "MethodRequiresBody" "This method requires a body instead of a semicolon",
   plain 0x2400006C "ShouldReturnValue" "This method must return a result of type {0}",
   governed .methodWithConstructorName 0x0400006E "MethodButWithConstructorName"
     "This method has a constructor name",
   plain 0x0100006F "MissingReturnType" "Return type for the method is missing",
   plain 0x24000070 "BodyForNativeMethod" "Native methods do not specify a body",
   plain 0x24000071 "BodyForAbstractMethod" "Abstract methods do not specify a body",
   plain 0x04000072 "NoMessageSendOnBaseType" "Cannot invoke {1}({2}) on the primitive type {0}",
   plain .parameterMismatch "ParameterMismatch"
     "The method {1}({2}) in the type {0} is not applicable for the arguments ({3})",
   plain 0x04000074 "NoMessageSendOnArrayType" "Cannot invoke {1}({2}) on the array type {0}",
   governed .nonStaticAccessToStatic .staticMethodThroughInstance "NonStaticAccessToStaticMethod"
     "The static method {1}({2}) from the type {0} should be accessed in a static way",
   governed .unusedPrivateMember 0x24000076 "UnusedPrivateMethod"
     "The method {1}({2}) from the type {0} is never used locally",
   governed .indirectStaticAccess 0x24000077 "IndirectAccessToStaticMethod"
     "The static method {1}({2}) from the type {0} should be accessed directly",
   plain .missingTypeInMethod "MissingTypeInMethod"
     "The method {1}({2}) from the type {0} refers to the missing type {3}",
   governed .methodCanBeStatic 0x24000079 "MethodCanBeStatic"
     "The method {1}({2}) from the type {0} can be declared as static",
   governed .methodCanBePotentiallyStatic 0x2400007A "MethodCanBePotentiallyStatic"
     "The method {1}({2}) from the type {0} can potentially be declared as static"]

def constructors : List Entry :=
  [plain .undefinedConstructor "UndefinedConstructor" "The constructor {0}({1}) is undefined",
   plain 0x08000083 "NotVisibleConstructor" "The constructor {0}({1}) is not visible",
   plain 0x08000084 "AmbiguousConstructor" "The constructor {0}({1}) is ambiguous",
   governed .usingDeprecatedApi .deprecatedConstructor "UsingDeprecatedConstructor"
     "The constructor {0}({1}) is deprecated",
   governed .unusedPrivateMember 0x24000086 "UnusedPrivateConstructor"
     "The constructor {0}({1}) is never used locally",
   plain 0x08000087 "InstanceFieldDuringConstructorInvocation"
     "Cannot refer to an instance field {0} while explicitly invoking a constructor",
   plain 0x08000088 "InstanceMethodDuringConstructorInvocation"
     "Cannot refer to an instance method while explicitly invoking a constructor",
   plain 0x08000089 "RecursiveConstructorInvocation" "Recursive constructor invocation {0}({1})",
   plain 0x0800008A "ThisSuperDuringConstructorInvocation"
     "Cannot refer to 'this' nor 'super' while explicitly invoking a constructor",
   plain .missingTypeInConstructor "MissingTypeInConstructor"
     "The constructor {0}({1}) refers to the missing type {2}",
   plain .constructorParameterMismatch "ConstructorParameterMismatch"
     "The constructor {0}({1}) is not applicable for the arguments ({2})",
   plain 0x0800008D "UndefinedConstructorInDefaultConstructor"
     "Implicit super constructor {0}({1}) is undefined for default constructor. Must define an explicit constructor"]

end JavaDiagnostics.Catalog
