import JavaDiagnostics.Symbol.JavaType

set_option autoImplicit false

namespace JavaDiagnostics

namespace JavaType

mutual

def parts : JavaType → List JavaType
  | ⟨kind, package, names, arguments, dimensions, nullness, missing⟩ =>
      ⟨kind, package, names, arguments, dimensions, nullness, missing⟩ :: partsAll arguments

def partsAll : List JavaType → List JavaType
  | [] => []
  | type :: rest => parts type ++ partsAll rest

end

theorem parts_all_eq (types : List JavaType) : partsAll types = types.flatMap parts := by
  induction types with
  | nil => rfl
  | cons type rest ih => rw [partsAll, ih, List.flatMap_cons]

theorem self_part (type : JavaType) : type ∈ type.parts := by
  cases type
  exact List.mem_cons_self

theorem argument_parts (type argument part : JavaType) (given : argument ∈ type.arguments)
    (within : part ∈ argument.parts) : part ∈ type.parts := by
  cases type with
  | mk kind package names arguments dimensions nullness missing =>
      rw [parts, parts_all_eq]
      exact List.mem_cons_of_mem _ (List.mem_flatMap.mpr ⟨argument, given, within⟩)

theorem argument_part (type argument : JavaType) (given : argument ∈ type.arguments) :
    argument ∈ type.parts :=
  type.argument_parts argument argument given argument.self_part

end JavaType

end JavaDiagnostics
