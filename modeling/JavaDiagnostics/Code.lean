/-!
Problem codes: the high bits of a code name the families it belongs to, the low bits number it among
the problems of the same families.
-/

set_option autoImplicit false

namespace JavaDiagnostics

structure Code where
  bits : UInt32
deriving DecidableEq, Repr

instance (n : Nat) : OfNat Code n := ⟨⟨OfNat.ofNat n⟩⟩

inductive Family where
  | type
  | field
  | method
  | constructor
  | imports
  | internal
  | parsing
  | javadoc
deriving DecidableEq, Repr

def Family.mask : Family → UInt32
  | type => 0x01000000
  | field => 0x02000000
  | method => 0x04000000
  | constructor => 0x08000000
  | imports => 0x10000000
  | internal => 0x20000000
  | parsing => 0x40000000
  | javadoc => 0x80000000

namespace Code

def belongsTo (code : Code) (family : Family) : Bool := code.bits &&& family.mask != 0

def isMember (code : Code) : Bool :=
  code.belongsTo .field || code.belongsTo .method || code.belongsTo .constructor

def ordinal (code : Code) : UInt32 := code.bits &&& 0x007FFFFF

/-! Codes that the rules of this library name. -/

def undefinedType : Code := 0x01000002
def notVisibleType : Code := 0x01000003
def deprecatedType : Code := 0x01000005
def typeMismatch : Code := 0x01000011
def unusedLocal : Code := 0x2000003D
def unusedArgument : Code := 0x2000003E
def methodTooLarge : Code := 0x2000003F
def initializerTooLarge : Code := 0x20000040
def constructorTooLarge : Code := 0x20000045
def undefinedField : Code := 0x02000046
def notVisibleField : Code := 0x02000047
def deprecatedField : Code := 0x02000049
def staticFieldThroughInstance : Code := 0x2200004C
def localHidesField : Code := 0x2200005B
def fieldHidesField : Code := 0x2200005D
def undefinedMethod : Code := 0x04000064
def notVisibleMethod : Code := 0x04000065
def deprecatedMethod : Code := 0x04000067
def parameterMismatch : Code := 0x04000073
def staticMethodThroughInstance : Code := 0x24000075
def missingTypeInMethod : Code := 0x04000078
def undefinedConstructor : Code := 0x08000082
def deprecatedConstructor : Code := 0x08000085
def missingTypeInConstructor : Code := 0x0800008B
def constructorParameterMismatch : Code := 0x0800008C
def unnecessaryCast : Code := 0x210000B5
def parsingError : Code := 0x600000CC
def parsingErrorAlone : Code := 0x600000CD
def classPathIncomplete : Code := 0x01000144
def unusedImport : Code := 0x30000184
def importNotFound : Code := 0x10000186
def task : Code := 0x200001C2
def javadocMissingParamTag : Code := 0xA00001D7
def javadocMissingReturnTag : Code := 0xA00001DB
def javadocMissingThrowsTag : Code := 0xA00001DD
def javadocMissingComment : Code := 0xA00001E6
def javadocInvalidTag : Code := 0xA00001E7
def javadocUndefinedField : Code := 0xA00001E8
def javadocUndefinedType : Code := 0xA00001F7
def javadocLead : Code := 0x20000202
def rawType : Code := 0x01000209
def unusedTypeArguments : Code := 0x04000210
def unhandledWarningToken : Code := 0x20000273
def unusedWarningToken : Code := 0x2000027B
def corruptedSignature : Code := 0x200002BC
def removedType : Code := 0x01000578
def removedMethod : Code := 0x04000579
def removedConstructor : Code := 0x0800057A
def removedField : Code := 0x0200057B

end Code

end JavaDiagnostics
