import JavaDiagnostics.Symbol.Readable

set_option autoImplicit false

namespace JavaDiagnostics

structure Method where
  declaring : JavaType
  name : String
  parameters : List JavaType
  returns : JavaType
  /-- The last parameter takes any number of arguments. -/
  variableArity : Bool
  isConstructor : Bool

namespace Method

def construct (declaring : JavaType) (parameters : List JavaType) : Method :=
  ⟨declaring, declaring.simpleName, parameters, .primitive "void", false, true⟩

def selector (method : Method) : String :=
  if method.isConstructor then method.declaring.simpleName else method.name

def parameterList (style : Style) (method : Method) : String :=
  typeList style method.variableArity method.parameters

-- The first missing type of the signature: what is returned comes before the parameters.
def missing? (method : Method) : Option JavaType :=
  (method.returns :: method.parameters).find? (·.missing)

end Method

instance : Readable Method where
  write style method := method.selector ++ "(" ++ method.parameterList style ++ ")"

-- A field, or a local variable without a declaring type.
structure Field where
  declaring : Option JavaType
  name : String

instance : Readable Field where
  write _ field := field.name

structure Import where
  segments : List String
  onDemand : Bool
deriving DecidableEq, Repr

namespace Import

def ofName (name : String) (onDemand : Bool) : Import :=
  ⟨(Text.fields '.' name.toList).map String.ofList, onDemand⟩

end Import

instance : Readable Import where
  write _ declared := JavaType.dotted declared.segments ++ if declared.onDemand then ".*" else ""

end JavaDiagnostics
