import JavaDiagnostics.Catalog.Entry

/-!
Problems of generics, annotations and later language features, and of analyses added with them.
-/

set_option autoImplicit false

namespace JavaDiagnostics.Catalog

open Entry

def generics : List Entry :=
  [governed .typeHiding 0x01000208 "TypeParameterHidingType"
     "The type parameter {0} is hiding the type {1}",
   governed .rawTypeReference .rawType "RawTypeReference"
     "{0} is a raw type. References to generic type {1} should be parameterized",
   plain 0x0100020A "NoAdditionalBoundAfterTypeVariable"
     "The type {0} is not an interface; it cannot be specified as a bounded parameter",
   governed .uncheckedTypeOperation 0x0400020B "UnsafeGenericArrayForVarargs"
     "Type safety: A generic array of {0} is created for a varargs parameter",
   governed .typeHiding 0x0100020D "TypeHidingTypeParameterFromType"
     "The type {0} is hiding the type parameter {1} of type {2}",
   governed .typeHiding 0x0100020E "TypeHidingTypeParameterFromMethod"
     "The type {0} is hiding the type parameter {1} of the generic method {2}({3}) of type {4}",
   plain 0x6000020F "InvalidUsageOfWildcard" "Wildcard is not allowed at this location",
   governed .unusedTypeArguments .unusedTypeArguments "UnusedTypeArgumentsForMethodInvocation"
     "Unused type arguments for the non generic method {1}({2}) of type {0}; it should not be parameterized with arguments <{3}>",
   plain 0x01000212 "IncompatibleTypesInForeach"
     "Type mismatch: cannot convert from element type {0} to {1}",
   plain 0x20000214 "InvalidTypeForCollection"
     "Can only iterate over an array or an instance of java.lang.Iterable",
   plain 0x0100021C "NonGenericType"
     "The type {0} is not generic; it cannot be parameterized with arguments <{1}>",
   plain 0x0100021D "IncorrectArityForParameterizedType"
     "Incorrect number of arguments for type {0}; it cannot be parameterized with arguments <{1}>",
   plain 0x0100021E "TypeArgumentMismatch"
     "Bound mismatch: The type {0} is not a valid substitute for the bounded parameter <{2} extends {3}> of the type {1}",
   plain 0x0100021F "DuplicateMethodErasure"
     "Erasure of method {0}({1}) is the same as another method in type {2}",
   plain 0x01000220 "ReferenceToForwardTypeVariable" "Illegal forward reference to type parameter {0}",
   plain 0x01000221 "BoundMustBeAnInterface"
     "The type {0} is not an interface; it cannot be specified as a bounded parameter",
   governed .uncheckedTypeOperation 0x01000222 "UnsafeRawConstructorInvocation"
     "Type safety: The constructor {0}({1}) belongs to the raw type {0}. References to generic type {2} should be parameterized",
   governed .uncheckedTypeOperation 0x01000223 "UnsafeRawMethodInvocation"
     "Type safety: The method {1}({2}) belongs to the raw type {0}. References to generic type {3} should be parameterized",
   governed .uncheckedTypeOperation 0x01000224 "UnsafeTypeConversion"
     "Type safety: The expression of type {0} needs unchecked conversion to conform to {1}",
   plain 0x01000225 "InvalidTypeVariableExceptionType"
     "Cannot use the type parameter {0} in a catch block",
   plain 0x01000226 "InvalidParameterizedExceptionType"
     "Cannot use the parameterized type {0} either in catch block or throws clause",
   plain 0x01000227 "IllegalGenericArray" "Cannot create a generic array of {0}",
   governed .uncheckedTypeOperation 0x01000228 "UnsafeRawFieldAssignment"
     "Type safety: The field {1} from the raw type {2} is assigned a value of type {0}. References to generic type {3} should be parameterized",
   governed .finalParameterBound 0x01000229 "FinalBoundForTypeVariable"
     "The type parameter {0} should not be bounded by the final type {1}. Final types cannot be further extended",
   plain 0x0100022B "SuperInterfacesCollide"
     "The interface {2} cannot be implemented more than once with different arguments: {0} and {1}",
   governed .uncheckedTypeOperation 0x01000231 "UnsafeGenericCast"
     "Type safety: Unchecked cast from {0} to {1}",
   plain 0x01000232 "IllegalInstanceofParameterizedType"
     "Cannot perform instanceof check against parameterized type {0}. Use the form {1} instead since further generic type information will be erased at runtime",
   plain 0x01000234 "NonGenericMethod"
     "The method {1}({2}) of type {0} is not generic; it cannot be parameterized with arguments <{3}>",
   plain 0x01000235 "IncorrectArityForParameterizedMethod"
     "Incorrect number of type arguments for generic method <{3}>{1}({2}) of type {0}; it cannot be parameterized with arguments <{4}>",
   governed .uncheckedTypeOperation 0x0400023F "UnsafeReturnTypeOverride"
     "Type safety: The return type {0} for {1}({2}) from the type {3} needs unchecked conversion to conform to {4} from the type {5}",
   plain 0x04000240 "MethodNameClash"
     "Name clash: The method {0}({1}) of type {2} has the same erasure as {0}({3}) of type {4} but does not override it",
   governed .uncheckedTypeOperation 0x01000249 "UnsafeRawGenericConstructorInvocation"
     "Type safety: The constructor {0}({1}) belongs to the raw type {0}. References to generic type {2} should be parameterized",
   governed .uncheckedTypeOperation 0x0100024A "UnsafeRawGenericMethodInvocation"
     "Type safety: The method {1}({2}) belongs to the raw type {0}. References to generic type {3} should be parameterized",
   governed .uncheckedTypeOperation 0x0100024C "UnsafeElementTypeConversion"
     "Type safety: The expression of type {0} needs unchecked conversion to conform to {1}",
   plain 0x6000024E "InvalidUsageOfTypeParameters"
     "Syntax error, type parameters are only available if source level is 1.5 or greater",
   plain 0x6000024F "InvalidUsageOfStaticImports"
     "Syntax error, static imports are only available if source level is 1.5 or greater",
   plain 0x60000250 "InvalidUsageOfForeachStatements"
     "Syntax error, 'for each' statements are only available if source level is 1.5 or greater",
   plain 0x60000251 "InvalidUsageOfTypeArguments"
     "Syntax error, parameterized types are only available if source level is 1.5 or greater",
   plain 0x60000252 "InvalidUsageOfEnumDeclarations"
     "Syntax error, enum declarations are only available if source level is 1.5 or greater",
   plain 0x60000253 "InvalidUsageOfVarargs"
     "Syntax error, varargs are only available if source level is 1.5 or greater",
   plain 0x60000254 "InvalidUsageOfAnnotations"
     "Syntax error, annotations are only available if source level is 1.5 or greater"]

def annotations : List Entry :=
  [governed .annotationSuperInterface 0x01000269 "AnnotationTypeUsedAsSuperInterface"
     "The annotation type {0} should not be used as a superinterface for {1}",
   governed .deadCode 0x2000026E "DeadCode" "Dead code",
   governed .missingOverrideAnnotations 0x0400026F "MissingOverrideAnnotation"
     "The method {1}({2}) of type {0} should be tagged with @Override since it actually overrides a superclass method",
   governed .missingDeprecatedAnnotations 0x22000270 "FieldMissingDeprecatedAnnotation"
     "The deprecated field {0}.{1} should be annotated with @Deprecated",
   governed .missingDeprecatedAnnotations 0x24000271 "MethodMissingDeprecatedAnnotation"
     "The deprecated method {1}({2}) of type {0} should be annotated with @Deprecated",
   governed .missingDeprecatedAnnotations 0x21000272 "TypeMissingDeprecatedAnnotation"
     "The deprecated type {0} should be annotated with @Deprecated",
   governed .unhandledWarningToken .unhandledWarningToken "UnhandledWarningToken"
     "Unsupported @SuppressWarnings(\"{0}\")",
   governed .unusedObjectAllocation 0x20000275 "UnusedObjectAllocation"
     "The allocated object is never used",
   governed .missingOverrideAnnotations 0x0400027A "MissingOverrideAnnotationForInterfaceMethodImplementation"
     "The method {1}({2}) of type {0} should be tagged with @Override since it actually overrides a superinterface method",
   governed .unusedWarningToken .unusedWarningToken "UnusedWarningToken"
     "Unnecessary @SuppressWarnings(\"{0}\")",
   governed .unusedExceptionParameter 0x2000027C "ExceptionParameterIsNeverUsed"
     "The value of the exception parameter {0} is not used",
   governed .unusedTypeArguments 0x04000294 "UnusedTypeArgumentsForConstructorInvocation"
     "Unused type arguments for the non generic constructor {0}({1}) of type {0}; it should not be parameterized with arguments <{2}>"]

def corruption : List Entry :=
  [plain .corruptedSignature "CorruptedSignature"
     "The class file {0} contains a signature '{1}' ill-formed at position {2}",
   plain 0x200002BD "InvalidEncoding" "Invalid encoding for {0}: {1}",
   plain 0x200002BE "CannotReadSource" "Cannot read the source from {0}; {1}"]

def boxing : List Entry :=
  [governed .autoBoxing 0x200002D0 "BoxingConversion" "The expression of type {0} is boxed into {1}",
   governed .autoBoxing 0x200002D1 "UnboxingConversion"
     "The expression of type {0} is unboxed into {1}"]

def switches : List Entry :=
  [governed .incompleteEnumSwitch 0x020002FE "MissingEnumConstantCase"
     "The enum constant {1} needs a corresponding case label in this enum switch on {0}",
   governed .incompleteEnumSwitch 0x020002FF "MissingEnumConstantCaseDespiteDefault"
     "The enum constant {1} should have a corresponding case label in this enum switch on {0}",
   governed .missingDefaultCase 0x200003F2 "MissingDefaultCase"
     "The switch statement should have a default case",
   governed .missingDefaultCase 0x200003F3 "MissingEnumDefaultCase"
     "The enum switch statement should have a default case"]

def variableArity : List Entry :=
  [governed .varargsArgumentNeedCast 0x04000320 "MethodVarargsArgumentNeedCast"
     "Type {0} of the last argument to method {1}({2}) doesn't exactly match the vararg parameter type. Cast to {3} to confirm the non-varargs invocation, or pass individual arguments of type {4} for a varargs invocation.",
   governed .varargsArgumentNeedCast 0x08000321 "ConstructorVarargsArgumentNeedCast"
     "Type {0} of the last argument to constructor {1}({2}) doesn't exactly match the vararg parameter type. Cast to {3} to confirm the non-varargs invocation, or pass individual arguments of type {4} for a varargs invocation.",
   ruled .alwaysWarning 0x04000322 "VarargsConflict"
     "Varargs methods should only override or be overridden by other varargs methods unlike {0}.{1}({2}) and {3}.{1}({4})"]

def genericJavadoc : List Entry :=
  [ruled .reference 0xA0000352 "JavadocGenericMethodTypeArgumentMismatch"
     "Bound mismatch: The generic method {1}({2}) of type {0} is not applicable for the arguments ({3})",
   ruled .reference 0xA0000353 "JavadocNonGenericMethod"
     "The method {1}({2}) of type {0} is not generic; it cannot be parameterized with arguments <{3}>",
   ruled .reference 0xA0000354 "JavadocIncorrectArityForParameterizedMethod"
     "Incorrect number of type arguments for generic method <{3}>{1}({2}) of type {0}",
   ruled .reference 0xA0000355 "JavadocParameterizedMethodArgumentTypeMismatch"
     "The parameterized method <{3}>{1}({2}) of type {0} is not applicable for the arguments ({4})",
   ruled .reference 0xA0000356 "JavadocTypeArgumentsForRawGenericMethod"
     "The method {1}({2}) of raw type {0} is no longer generic; it cannot be parameterized with arguments <{3}>",
   ruled .reference 0xA0000357 "JavadocGenericConstructorTypeArgumentMismatch"
     "Bound mismatch: The generic constructor {0}({1}) of type {0} is not applicable for the arguments ({2})",
   ruled .reference 0xA0000358 "JavadocNonGenericConstructor"
     "The constructor {0}({1}) of type {0} is not generic; it cannot be parameterized with arguments <{2}>",
   ruled .reference 0xA0000359 "JavadocIncorrectArityForParameterizedConstructor"
     "Incorrect number of type arguments for generic constructor <{2}>{0}({1}) of type {0}",
   ruled .reference 0xA000035A "JavadocParameterizedConstructorArgumentTypeMismatch"
     "The parameterized constructor <{2}>{0}({1}) of type {0} is not applicable for the arguments ({3})",
   ruled .reference 0xA000035B "JavadocTypeArgumentsForRawGenericConstructor"
     "The constructor {0}({1}) of raw type {0} is no longer generic; it cannot be parameterized with arguments <{2}>"]

def resources : List Entry :=
  [governed .redundantSpecificationOfTypeArguments 0x01000371 "RedundantSpecificationOfTypeArguments"
     "Redundant specification of type arguments <{0}>",
   governed .unclosedCloseable 0x20000375 "UnclosedCloseable" "Resource leak: '{0}' is never closed",
   governed .unclosedCloseable 0x20000376 "UnclosedCloseableAtExit"
     "Resource leak: '{0}' is not closed at this location",
   governed .potentiallyUnclosedCloseable 0x20000377 "PotentiallyUnclosedCloseable"
     "Potential resource leak: '{0}' may not be closed",
   governed .potentiallyUnclosedCloseable 0x20000378 "PotentiallyUnclosedCloseableAtExit"
     "Potential resource leak: '{0}' may not be closed at this location",
   governed .explicitlyClosedAutoCloseable 0x20000379 "ExplicitlyClosedAutoCloseable"
     "Resource '{0}' should be managed by try-with-resource"]

def nullness : List Entry :=
  [governed .nullSpecViolation 0x0100038E "RequiredNonNullButProvidedNull"
     "Null type mismatch: required '{0}' but the provided value is null",
   governed .nullAnnotationInferenceConflict 0x0100038F "RequiredNonNullButProvidedPotentialNull"
     "Null type mismatch: required '{0}' but the provided value is inferred as @{1}",
   governed .nullUncheckedConversion 0x01000390 "RequiredNonNullButProvidedUnknown"
     "Null type safety: The expression of type '{1}' needs unchecked conversion to conform to '{0}'",
   governed .missingNonNullByDefaultAnnotations 0x20000391 "MissingNonNullByDefaultAnnotationOnPackage"
     "A default nullness annotation has not been specified for the package {0}",
   governed .nullSpecViolation 0x04000393 "IllegalReturnNullityRedefinition"
     "The return type is incompatible with '{1}' returned from {0} (mismatching null constraints)",
   governed .potentialNullReference 0x20000396 "PotentialNullMessageSendReference"
     "Potential null pointer access: The method {1}({2}) may return null",
   governed .missingNonNullByDefaultAnnotations 0x20000399 "MissingNonNullByDefaultAnnotationOnType"
     "A default nullness annotation has not been specified for the type {0}",
   governed .redundantNullAnnotations 0x200003A3 "RedundantNullAnnotation"
     "The nullness annotation is redundant with a default that applies to this location",
   governed .potentialNullReference 0x020003AB "NullableFieldReference"
     "Potential null pointer access: The field {0} is specified as @{1}"]

def lambdas : List Entry :=
  [ruled .internalError 0x2000044D "LambdaShapeComputationError"
     "Internal error computing the shape of a lambda expression: {0}"]

def lint : List Entry :=
  [governed .unusedTypeParameter 0x0100044C "UnusedTypeParameter" "Unused type parameter {0}",
   governed .unlikelyCollectionMethodArgumentType 0x200004B0 "UnlikelyCollectionMethodArgumentType"
     "Unlikely argument type {0} for {1} on a {2}",
   governed .unlikelyEqualsArgumentType 0x200004B1 "UnlikelyEqualsArgumentType"
     "Unlikely argument type for equals(): {0} seems to be unrelated to {1}"]

def removal : List Entry :=
  [governed .usingTerminallyDeprecatedApi .removedType "UsingTerminallyDeprecatedType"
     "The type {0} has been deprecated and marked for removal",
   governed .usingTerminallyDeprecatedApi .removedMethod "UsingTerminallyDeprecatedMethod"
     "The method {1}({2}) from the type {0} has been deprecated and marked for removal",
   governed .usingTerminallyDeprecatedApi .removedConstructor "UsingTerminallyDeprecatedConstructor"
     "The constructor {0}({1}) has been deprecated and marked for removal",
   governed .usingTerminallyDeprecatedApi .removedField "UsingTerminallyDeprecatedField"
     "The field {0}.{1} has been deprecated and marked for removal",
   governed .usingTerminallyDeprecatedApi 0x0400057C "OverridingTerminallyDeprecatedMethod"
     "The method {0} overrides a method from {1} that has been deprecated and marked for removal"]

end JavaDiagnostics.Catalog
