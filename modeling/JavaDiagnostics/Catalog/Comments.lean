import JavaDiagnostics.Catalog.Entry

/-!
Tasks, flow analysis and doc comments.
-/

set_option autoImplicit false

namespace JavaDiagnostics.Catalog

open Entry

def flow : List Entry :=
  [governed .tasks .task "Task" "{0} {1}",
   governed .nullReference 0x200001C3 "NullLocalVariableReference"
     "Null pointer access: The variable {0} can only be null at this location",
   governed .potentialNullReference 0x200001C4 "PotentialNullLocalVariableReference"
     "Potential null pointer access: The variable {0} may be null at this location",
   governed .redundantNullCheck 0x200001C5 "RedundantNullCheckOnNullLocalVariable"
     "Redundant null check: The variable {0} can only be null at this location",
   governed .redundantNullCheck 0x200001C6 "NullLocalVariableComparisonYieldsFalse"
     "Null comparison always yields false: The variable {0} can only be null at this location",
   governed .redundantNullCheck 0x200001C7 "RedundantLocalVariableNullAssignment"
     "Redundant assignment: The variable {0} can only be null at this location",
   governed .redundantNullCheck 0x200001C8 "NullLocalVariableInstanceofYieldsFalse"
     "instanceof always yields false: The variable {0} can only be null at this location",
   governed .redundantNullCheck 0x200001C9 "RedundantNullCheckOnNonNullLocalVariable"
     "Redundant null check: The variable {0} cannot be null at this location",
   governed .redundantNullCheck 0x200001CA "NonNullLocalVariableComparisonYieldsFalse"
     "Null comparison always yields false: The variable {0} cannot be null at this location",
   governed .potentialNullReference 0x200001CB "PotentialNullUnboxing"
     "Potential null pointer access: This expression of type {0} may be null but requires auto-unboxing",
   governed .undocumentedEmptyBlock 0x200001CC "UndocumentedEmptyBlock"
     "Empty block should be documented",
   governed .nullReference 0x200001CD "NullUnboxing"
     "Null pointer access: This expression of type {0} is null but requires auto-unboxing"]

def javadoc : List Entry :=
  [plain 0xA00001CE "JavadocInvalidSeeUrlReference"
     "Invalid URL reference. Double quote the reference or use the href syntax",
   ruled .tagDescription 0xA00001CF "JavadocMissingTagDescription"
     "Description expected after this reference",
   plain 0xA00001D0 "JavadocDuplicateTag" "Duplicate tag for {0}",
   ruled .hiddenReference 0xA00001D1 "JavadocHiddenReference" "{0} is not visible",
   plain 0xA00001D2 "JavadocInvalidMemberTypeQualification" "Invalid member type qualification",
   plain 0xA00001D3 "JavadocMissingIdentifier" "Missing identifier",
   plain 0xA00001D4 "JavadocNonStaticTypeFromStaticInvocation"
     "Cannot make a static reference to the non-static type variable {0}",
   plain 0xA00001D5 "JavadocInvalidParamTagTypeParameter" "Invalid param tag type parameter name",
   plain 0xA00001D6 "JavadocUnexpectedTag" "Unexpected tag",
   governed .missingJavadocTags .javadocMissingParamTag "JavadocMissingParamTag"
     "Missing tag for parameter {0}",
   plain 0xA00001D8 "JavadocMissingParamName" "Missing parameter name",
   ruled .reference 0xA00001D9 "JavadocDuplicateParamName" "Duplicate tag for parameter",
   ruled .reference 0xA00001DA "JavadocInvalidParamName" "Parameter {0} is not declared",
   governed .missingJavadocTags .javadocMissingReturnTag "JavadocMissingReturnTag"
     "Missing tag for return type",
   plain 0xA00001DC "JavadocDuplicateReturnTag" "Duplicate tag for return type",
   governed .missingJavadocTags .javadocMissingThrowsTag "JavadocMissingThrowsTag"
     "Missing tag for declared exception {0}",
   plain 0xA00001DE "JavadocMissingThrowsClassName" "Missing class name",
   plain 0xA00001DF "JavadocInvalidThrowsClass" "Invalid class name",
   ruled .reference 0xA00001E0 "JavadocDuplicateThrowsClassName" "Duplicate tag for thrown exception",
   ruled .reference 0xA00001E1 "JavadocInvalidThrowsClassName" "Exception {0} is not declared",
   plain 0xA00001E2 "JavadocMissingSeeReference" "Missing reference",
   plain 0xA00001E3 "JavadocInvalidSeeReference" "Invalid reference",
   plain 0xA00001E4 "JavadocInvalidSeeHref" "Malformed link reference",
   plain 0xA00001E5 "JavadocInvalidSeeArgs" "Invalid parameters declaration",
   governed .missingJavadocComments .javadocMissingComment "JavadocMissing"
     "Missing comment for {0} declaration",
   plain .javadocInvalidTag "JavadocInvalidTag" "Invalid tag",
   ruled .reference .javadocUndefinedField "JavadocUndefinedField"
     "{0} cannot be resolved or is not a field",
   ruled .hiddenReference 0xA00001E9 "JavadocNotVisibleField" "The field {0}.{1} is not visible",
   ruled .reference 0xA00001EA "JavadocAmbiguousField" "The field {1} is ambiguous",
   ruled .deprecatedReference 0xA00001EB "JavadocUsingDeprecatedField"
     "The field {0}.{1} is deprecated",
   ruled .reference 0xA00001EC "JavadocUndefinedConstructor" "The constructor {0}({1}) is undefined",
   ruled .hiddenReference 0xA00001ED "JavadocNotVisibleConstructor"
     "The constructor {0}({1}) is not visible",
   ruled .reference 0xA00001EE "JavadocAmbiguousConstructor" "The constructor {0}({1}) is ambiguous",
   ruled .deprecatedReference 0xA00001EF "JavadocUsingDeprecatedConstructor"
     "The constructor {0}({1}) is deprecated",
   ruled .reference 0xA00001F0 "JavadocUndefinedMethod"
     "The method {1}({2}) is undefined for the type {0}",
   ruled .hiddenReference 0xA00001F1 "JavadocNotVisibleMethod"
     "The method {1}({2}) from the type {0} is not visible",
   ruled .reference 0xA00001F2 "JavadocAmbiguousMethod"
     "The method {1}({2}) is ambiguous for the type {0}",
   ruled .deprecatedReference 0xA00001F3 "JavadocUsingDeprecatedMethod"
     "The method {1}({2}) from the type {0} is deprecated",
   ruled .reference 0xA00001F4 "JavadocNoMessageSendOnBaseType"
     "Cannot invoke {1}({2}) on the primitive type {0}",
   ruled .reference 0xA00001F5 "JavadocParameterMismatch"
     "The method {1}({2}) in the type {0} is not applicable for the arguments ({3})",
   ruled .reference 0xA00001F6 "JavadocNoMessageSendOnArrayType"
     "Cannot invoke {1}({2}) on the array type {0}",
   ruled .reference .javadocUndefinedType "JavadocUndefinedType" "{0} cannot be resolved to a type",
   ruled .hiddenReference 0xA00001F8 "JavadocNotVisibleType" "The type {0} is not visible",
   ruled .reference 0xA00001F9 "JavadocAmbiguousType" "The type {0} is ambiguous",
   ruled .deprecatedReference 0xA00001FA "JavadocUsingDeprecatedType" "The type {0} is deprecated",
   plain 0xA00001FB "JavadocInternalTypeNameProvided"
     "The nested type {0} cannot be referenced using its binary name",
   ruled .reference 0xA00001FC "JavadocInheritedMethodHidesEnclosingName"
     "The method {1} is defined in an inherited type and an enclosing scope",
   ruled .reference 0xA00001FD "JavadocInheritedFieldHidesEnclosingName"
     "The field {1} is defined in an inherited type and an enclosing scope",
   ruled .reference 0xA00001FE "JavadocInheritedNameHidesEnclosingTypeName"
     "The type {0} is defined in an inherited type and an enclosing scope",
   ruled .reference 0xA00001FF "JavadocAmbiguousMethodReference" "Reference {0} is ambiguous",
   plain 0xA0000200 "JavadocUnterminatedInlineTag" "Missing closing brace for inline tag",
   plain 0xA0000201 "JavadocMalformedSeeReference" "Malformed reference (missing end space separator)",
   plain .javadocLead "JavadocMessagePrefix" "Javadoc: ",
   plain 0xA0000203 "JavadocMissingHashCharacter" "Missing '#' character in reference {0}",
   ruled .emptyReturnTag 0xA0000204 "JavadocEmptyReturnTag" "Description expected after @return",
   plain 0xA0000205 "JavadocInvalidValueReference"
     "Only static field reference is allowed for @value tag",
   plain 0xA0000206 "JavadocUnexpectedText" "Unexpected text",
   ruled .reference 0xA0000207 "JavadocInvalidParamTagName" "Invalid param tag name"]

end JavaDiagnostics.Catalog
