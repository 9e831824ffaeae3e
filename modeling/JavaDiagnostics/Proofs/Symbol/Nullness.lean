import JavaDiagnostics.Symbol.Member

set_option autoImplicit false

namespace JavaDiagnostics

namespace JavaType

mutual

def unmarked : JavaType → JavaType
  | ⟨kind, package, names, arguments, dimensions, _, missing⟩ =>
      ⟨kind, package, names, unmarkedAll arguments, dimensions, none, missing⟩

def unmarkedAll : List JavaType → List JavaType
  | [] => []
  | type :: rest => unmarked type :: unmarkedAll rest

end

theorem unmarked_all_nil (types : List JavaType) : unmarkedAll types = [] ↔ types = [] := by
  cases types <;> simp [unmarkedAll]

mutual

theorem chars_unmarked (short : Bool) (type : JavaType) :
    chars ⟨short, none⟩ (unmarked type) = chars ⟨short, none⟩ type := by
  cases type with
  | mk kind package names arguments dimensions nullness missing =>
      rw [unmarked, chars, chars, argument_chars_unmarked short arguments]
      rfl

theorem argument_chars_unmarked (short : Bool) (types : List JavaType) :
    argumentChars ⟨short, none⟩ (unmarkedAll types) = argumentChars ⟨short, none⟩ types := by
  cases types with
  | nil => rfl
  | cons type rest =>
      rw [unmarkedAll, argumentChars, argumentChars, chars_unmarked short type,
        argument_chars_unmarked short rest]

end

@[simp] theorem write_unmarked (short : Bool) (type : JavaType) :
    write ⟨short, none⟩ type.unmarked = write ⟨short, none⟩ type :=
  congrArg String.ofList (chars_unmarked short type)

theorem write_brief_unmarked (type : JavaType) : write .brief type.unmarked = write .brief type :=
  type.write_unmarked true

theorem write_full_unmarked (type : JavaType) : write .full type.unmarked = write .full type :=
  type.write_unmarked false

@[simp] theorem unmarked_missing (type : JavaType) : type.unmarked.missing = type.missing := by
  cases type
  rfl

@[simp] theorem unmarked_names (type : JavaType) : type.unmarked.names = type.names := by
  cases type
  rfl

@[simp] theorem unmarked_array (type : JavaType) : type.unmarked.isArray = type.isArray := by
  cases type
  rfl

@[simp] theorem unmarked_leaf (type : JavaType) : type.unmarked.leaf = type.leaf.unmarked := by
  cases type
  rfl

@[simp] theorem unmarked_element (type : JavaType) : type.unmarked.element = type.element.unmarked := by
  cases type
  rfl

@[simp] theorem unmarked_erasure (type : JavaType) : type.unmarked.erasure = type.erasure.unmarked := by
  cases type
  rfl

theorem parameter_chars_unmarked (short variableArity : Bool) (types : List JavaType) :
    parameterChars ⟨short, none⟩ variableArity (types.map unmarked) =
      parameterChars ⟨short, none⟩ variableArity types := by
  induction types with
  | nil => rfl
  | cons type rest ih =>
      cases rest with
      | nil =>
          simp only [List.map_cons, List.map_nil, parameterChars, unmarked_array, unmarked_element,
            chars_unmarked]
      | cons next others =>
          simp only [List.map_cons, parameterChars, chars_unmarked] at ih ⊢
          rw [ih]

end JavaType

@[simp] theorem type_list_unmarked (short variableArity : Bool) (types : List JavaType) :
    typeList ⟨short, none⟩ variableArity (types.map JavaType.unmarked) =
      typeList ⟨short, none⟩ variableArity types :=
  congrArg (fun texts => String.ofList (List.intercalate [',', ' '] texts))
    (JavaType.parameter_chars_unmarked short variableArity types)

def JavaType.Clash (first second : JavaType) : Prop :=
  write Style.brief first = write Style.brief second ∧ write Style.full first = write Style.full second

def NamePair.marked (options : Options) (first second : JavaType) : NamePair :=
  let shown (short : Bool) (type : JavaType) := write ⟨short, some options.annotationName⟩ type
  ⟨(shown false first, shown false second), (shown true first, shown true second)⟩

theorem NamePair.of_clash (options : Options) (first second : JavaType) (clash : first.Clash second) :
    NamePair.of options first second = .marked options first second := by
  simp [NamePair.of, NamePair.marked, clash.1, clash.2]

def Method.unmarked (method : Method) : Method :=
  { method with
      declaring := method.declaring.unmarked
      parameters := method.parameters.map JavaType.unmarked
      returns := method.returns.unmarked }

@[simp] theorem Method.unmarked_declaring (method : Method) :
    method.unmarked.declaring = method.declaring.unmarked := rfl

@[simp] theorem Method.unmarked_constructor (method : Method) :
    method.unmarked.isConstructor = method.isConstructor := rfl

@[simp] theorem Method.unmarked_selector (method : Method) : method.unmarked.selector = method.selector := by
  simp [Method.selector, Method.unmarked, JavaType.simpleName]

@[simp] theorem Method.unmarked_parameters (short : Bool) (method : Method) :
    method.unmarked.parameterList ⟨short, none⟩ = method.parameterList ⟨short, none⟩ :=
  type_list_unmarked short method.variableArity method.parameters

theorem Method.unmarked_missing (method : Method) :
    method.unmarked.missing? = method.missing?.map JavaType.unmarked := by
  have whole : method.unmarked.returns :: method.unmarked.parameters =
      (method.returns :: method.parameters).map JavaType.unmarked := rfl
  have seen : (·.missing) ∘ JavaType.unmarked = (·.missing) := funext JavaType.unmarked_missing
  rw [Method.missing?, whole, List.find?_map, seen]
  rfl

def Field.unmarked (field : Field) : Field :=
  { field with declaring := field.declaring.map JavaType.unmarked }

@[simp] theorem Field.unmarked_name (field : Field) : field.unmarked.name = field.name := rfl

end JavaDiagnostics
