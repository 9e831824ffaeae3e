import JavaDiagnostics.Catalog.Entry

/-!
Problems of expressions and statements, and of parsing.
-/

set_option autoImplicit false

namespace JavaDiagnostics.Catalog

open Entry

def statements : List Entry :=
  [plain 0x20000096 "ArrayReferenceRequired"
     "The type of the expression must be an array type but it resolved to {0}",
   governed .noImplicitStringConversion 0x20000097 "NoImplicitStringConversionForCharArrayExpression"
     "Must explicitly convert the char[] to a String",
   plain 0x20000098 "StringConstantIsExceedingUtf8Limit"
     "The string literal is longer than 65535 characters",
   plain 0x20000099 "NonConstantExpression" "Case expressions must be constant expressions",
   plain 0x2000009A "NumericValueOutOfRange" "The literal {1} of type {0} is out of range",
   plain 0x0100009C "IllegalCast" "Cannot cast from {0} to {1}",
   plain 0x0100009D "InvalidClassInstantiation" "Cannot instantiate the type {0}",
   plain 0x200000A0 "InvalidOperator" "The operator {0} is undefined for the argument type(s) {1}",
   plain 0x200000A1 "CodeCannotBeReached" "Unreachable code",
   plain 0x200000A2 "CannotReturnInInitializer" "Cannot return from within an initializer",
   plain 0x200000A3 "InitializerMustCompleteNormally" "Initializer does not complete normally",
   plain 0x200000A4 "InvalidVoidExpression" "Expression must return a value",
   governed .maskedCatchBlock 0x010000A5 "MaskedCatch"
     "Unreachable catch block for {0}. It is already handled by the catch block for {1}",
   plain 0x200000A6 "DuplicateDefaultCase" "The default case is already defined",
   plain 0x050000A7 "UnreachableCatch"
     "Unreachable catch block for {0}. This exception is never thrown from the try statement body",
   plain 0x010000A8 "UnhandledException" "Unhandled exception type {0}",
   plain 0x010000A9 "IncorrectSwitchType"
     "Cannot switch on a value of type {0}. Only convertible int values or enum variables are permitted",
   plain 0x020000AA "DuplicateCase" "Duplicate case",
   plain 0x200000AB "DuplicateLabel" "Duplicate label {0}",
   plain 0x200000AC "InvalidBreak" "break cannot be used outside of a loop or a switch",
   plain 0x200000AD "InvalidContinue" "continue cannot be used outside of a loop",
   plain 0x200000AE "UndefinedLabel" "The label {0} is missing",
   plain 0x200000AF "InvalidTypeToSynchronized" "Cannot synchronize on the primitive type {0}",
   plain 0x200000B0 "InvalidNullToSynchronized" "Cannot synchronize on a null value",
   plain 0x200000B1 "CannotThrowNull" "Cannot throw null as an exception",
   governed .noEffectAssignment 0x200000B2 "AssignmentHasNoEffect"
     "The assignment to variable {0} has no effect",
   governed .accidentalBooleanAssign 0x200000B3 "PossibleAccidentalBooleanAssignment"
     "Possible accidental assignment in place of a comparison. A condition expression should not be reduced to an assignment",
   governed .emptyStatement 0x200000B4 "SuperfluousSemicolon" "Unnecessary semicolon",
   governed .unnecessaryTypeCheck .unnecessaryCast "UnnecessaryCast" "Unnecessary cast from {0} to {1}",
   governed .unnecessaryTypeCheck 0x210000B7 "UnnecessaryInstanceof"
     "The expression of type {0} is already an instance of type {1}",
   governed .finallyBlockNotCompleting 0x200000B8 "FinallyMustCompleteNormally"
     "finally block does not complete normally",
   governed .unusedDeclaredThrownException 0x200000B9 "UnusedMethodDeclaredThrownException"
     "The declared exception {3} is not actually thrown by the method {1}({2}) from type {0}",
   governed .unusedDeclaredThrownException 0x200000BA "UnusedConstructorDeclaredThrownException"
     "The declared exception {2} is not actually thrown by the constructor {0}({1})",
   plain 0x210000BB "InvalidCatchBlockSequence"
     "Unreachable catch block for {0}. It is already handled by the catch block for {1}",
   governed .emptyStatement 0x210000BC "EmptyControlFlowStatement" "Empty control-flow statement",
   governed .unnecessaryElse 0x200000BD "UnnecessaryElse"
     "Statement unnecessarily nested within else clause. The corresponding then clause does not complete normally",
   governed .accessEmulation 0x020000BE "NeedToEmulateFieldReadAccess"
     "Read access to enclosing field {0}.{1} is emulated by a synthetic accessor method",
   governed .accessEmulation 0x020000BF "NeedToEmulateFieldWriteAccess"
     "Write access to enclosing field {0}.{1} is emulated by a synthetic accessor method",
   governed .accessEmulation 0x040000C0 "NeedToEmulateMethodAccess"
     "Access to enclosing method {1}({2}) from the type {0} is emulated by a synthetic accessor method",
   governed .accessEmulation 0x040000C1 "NeedToEmulateConstructorAccess"
     "Access to enclosing constructor {0}({1}) is emulated by a synthetic accessor method",
   governed .fallthroughCase 0x200000C2 "FallthroughCase"
     "Switch case may be entered by falling through previous case",
   plain 0x040000C3 "InheritedMethodHidesEnclosingName"
     "The method {1} is defined in an inherited type and an enclosing scope",
   plain 0x020000C4 "InheritedFieldHidesEnclosingName"
     "The field {1} is defined in an inherited type and an enclosing scope",
   plain 0x010000C5 "InheritedTypeHidesEnclosingName"
     "The type {0} is defined in an inherited type and an enclosing scope",
   plain 0x600000C6 "IllegalUsageOfQualifiedTypeReference"
     "Illegal usage of the qualified type reference {0}",
   governed .unusedLabel 0x200000C7 "UnusedLabel" "The label {0} is never explicitly referenced",
   plain 0x200000C8 "ThisInStaticContext" "Cannot use this in a static context",
   plain 0x240000C9 "StaticMethodRequested"
     "Cannot make a static reference to the non-static method {1}({2}) from the type {0}",
   plain 0x200000CA "IllegalDimension" "Cannot specify an array dimension after an empty dimension",
   plain 0x200000CB "InvalidTypeExpression" "The type {0} cannot be used as an expression",
   governed .comparingIdentical 0x200000D3 "ComparingIdentical" "Comparing identical expressions"]

def parsing : List Entry :=
  [plain .parsingError "ParsingError" "Syntax error on token \"{0}\", {1} expected",
   plain .parsingErrorAlone "ParsingErrorNoSuggestion" "Syntax error on token \"{0}\"",
   plain 0x600000CE "InvalidUnaryExpression" "Invalid argument to operation ++/--",
   plain 0x600000CF "InterfaceCannotHaveConstructors" "Interfaces cannot have constructors",
   plain 0x600000D0 "ArrayConstantsOnlyInArrayInitializers"
     "Array constants can only be used in initializers",
   plain 0x600000D1 "ParsingErrorOnKeyword" "Syntax error on keyword \"{0}\"; {1} expected",
   plain 0x600000D2 "ParsingErrorOnKeywordNoSuggestion" "Syntax error on keyword \"{0}\"",
   plain 0x600000DC "UnmatchedBracket" "Unmatched bracket",
   plain 0x020000DD "NoFieldOnBaseType" "The primitive type {0} of {1} does not have a field {2}",
   plain 0x600000DE "InvalidExpressionAsStatement"
     "Syntax error, insert \"AssignmentOperator Expression\" to complete Expression",
   plain 0x600000DF "ExpressionShouldBeAVariable"
     "The left-hand side of an assignment must be a variable",
   plain 0x600000E0 "MissingSemiColon" "Syntax error, insert \";\" to complete {0}",
   plain 0x600000E1 "InvalidParenthesizedExpression"
     "Syntax error on token \"(\", invalid parenthesized expression",
   plain 0x600000E6 "ParsingErrorInsertTokenBefore"
     "Syntax error on token \"{0}\", {1} expected before this token",
   plain 0x600000E7 "ParsingErrorInsertTokenAfter"
     "Syntax error on token \"{0}\", {1} expected after this token",
   plain 0x600000E8 "ParsingErrorDeleteToken" "Syntax error on token \"{0}\", delete this token",
   plain 0x600000E9 "ParsingErrorDeleteTokens" "Syntax error on tokens, delete these tokens",
   plain 0x600000EA "ParsingErrorMergeTokens" "Syntax error on tokens \"{0}\", {1} expected",
   plain 0x600000EB "ParsingErrorInvalidToken" "Syntax error on token \"{0}\", {1} expected",
   plain 0x600000EC "ParsingErrorMisplacedConstruct" "Syntax error on token(s), misplaced construct(s)",
   plain 0x600000ED "ParsingErrorReplaceTokens" "Syntax error on tokens, {0} expected instead",
   plain 0x600000EE "ParsingErrorNoSuggestionForTokens" "Syntax error on tokens, delete these tokens",
   plain 0x600000EF "ParsingErrorUnexpectedEOF" "Syntax error, unexpected {0}",
   plain 0x600000F0 "ParsingErrorInsertToComplete" "Syntax error, insert \"{0}\" to complete {1}",
   plain 0x600000F1 "ParsingErrorInsertToCompleteScope"
     "Syntax error, insert \"{0}\" to complete scope",
   plain 0x600000F2 "ParsingErrorInsertToCompletePhrase"
     "Syntax error, insert \"{0}\" to complete phrase",
   plain 0x600000FA "EndOfSource" "Syntax error, unexpected end of file",
   plain 0x600000FB "InvalidHexa" "Invalid hex literal number",
   plain 0x600000FC "InvalidOctal" "Invalid octal literal number",
   plain 0x600000FD "InvalidCharacterConstant" "Invalid character constant",
   plain 0x600000FE "InvalidEscape"
     "Invalid escape sequence (valid ones are  \\b  \\t  \\n  \\f  \\r  \\\"  \\'  \\\\ )",
   plain 0x600000FF "InvalidInput" "Invalid character",
   plain 0x60000100 "InvalidUnicodeEscape" "Invalid unicode",
   plain 0x60000101 "InvalidFloat" "Invalid float literal number",
   plain 0x60000102 "NullSourceString" "Null source string",
   plain 0x60000103 "UnterminatedString" "String literal is not properly closed by a double-quote",
   plain 0x60000104 "UnterminatedComment" "Unexpected end of comment",
   governed .nonExternalizedString 0x20000105 "NonExternalizedStringLiteral"
     "Non-externalized string literal; it should be followed by //$NON-NLS-<n>$",
   plain 0x60000106 "InvalidDigit" "Invalid digit (valid ones are 0..9)",
   plain 0x60000107 "InvalidLowSurrogate" "Invalid low surrogate: must be within 0xDC00 and 0xDFFF",
   plain 0x60000108 "InvalidHighSurrogate" "Invalid high surrogate: must be within 0xD800 and 0xDBFF",
   governed .nonExternalizedString 0x20000109 "UnnecessaryNLSTag" "Unnecessary $NON-NLS$ tag",
   plain 0x6000010A "InvalidBinary" "Invalid binary literal number (only '0' and '1' are expected)",
   plain 0x6000010B "BinaryLiteralNotBelow17"
     "Binary literals can only be used with source level 1.7 or greater",
   plain 0x6000010C "IllegalUnderscorePosition" "Underscores have to be located within digits",
   plain 0x6000010D "UnderscoresInLiteralsNotBelow17"
     "Underscores can only be used with source level 1.7 or greater",
   plain 0x6000010E "IllegalHexaLiteral" "Invalid hexadecimal literal number"]

end JavaDiagnostics.Catalog
