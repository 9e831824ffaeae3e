import JavaDiagnostics.Symbol.Readable
import Mathlib.Data.List.Basic

set_option autoImplicit false

namespace JavaDiagnostics

namespace Text

theorem intercalate_last (separator text ending : String) (front : List String) :
    separator.intercalate (front ++ [text ++ ending]) = separator.intercalate (front ++ [text]) ++ ending := by
  cases front with
  | nil => simp
  | cons first rest =>
      have split (item : String) : separator.intercalate (first :: rest ++ [item]) =
          separator.intercalate (first :: rest) ++ separator ++ item := by
        rw [String.intercalate_append_of_ne_nil (List.cons_ne_nil first rest) (List.cons_ne_nil item []),
          String.intercalate_singleton]
      rw [split, split, ← String.append_assoc]

end Text

namespace JavaType

def pairs (dimensions : Nat) : String := String.join (List.replicate dimensions "[]")

theorem pairs_last (dimensions : Nat) : pairs (dimensions + 1) = pairs dimensions ++ "[]" := by
  rw [pairs, List.replicate_succ', String.join_append]
  rfl

theorem bracket_chars_pairs (dimensions : Nat) : String.ofList (bracketChars dimensions) = pairs dimensions := by
  induction dimensions with
  | zero => rfl
  | succ dimensions ih =>
      have first : bracketChars (dimensions + 1) = ['[', ']'] ++ bracketChars dimensions := rfl
      rw [first, String.ofList_append, ih, pairs, pairs, List.replicate_succ, String.join_cons]

theorem write_leaf (style : Style) (type : JavaType) :
    write style type = write style type.leaf ++ pairs type.dimensions := by
  have split : chars style type = chars style type.leaf ++ bracketChars type.dimensions := by
    cases type
    simp only [leaf, chars, bracketChars, List.append_nil]
  rw [← bracket_chars_pairs]
  exact (congrArg String.ofList split).trans String.ofList_append

theorem parameter_chars_last (style : Style) (variableArity : Bool) (front : List JavaType) (last : JavaType) :
    parameterChars style variableArity (front ++ [last]) =
      front.map (chars style) ++ parameterChars style variableArity [last] := by
  induction front with
  | nil => rfl
  | cons type rest ih =>
      rw [List.cons_append, List.map_cons, List.cons_append, ← ih]
      cases rest <;> rfl

theorem type_list_last (style : Style) (variableArity : Bool) (front : List JavaType) (last : JavaType) :
    typeList style variableArity (front ++ [last]) = ", ".intercalate (front.map (write style) ++
      (parameterChars style variableArity [last]).map String.ofList) := by
  rw [← String.toList_inj, String.toList_intercalate, typeList, String.toList_ofList, parameter_chars_last]
  simp [write, Function.comp_def]

theorem type_list_fixed (style : Style) (front : List JavaType) (last : JavaType) :
    typeList style false (front ++ [last]) = ", ".intercalate (front.map (write style) ++ [write style last]) :=
  type_list_last style false front last

theorem type_list_dots (style : Style) (front : List JavaType) (last : JavaType) (array : last.isArray = true) :
    typeList style true (front ++ [last]) =
      ", ".intercalate (front.map (write style) ++ [write style last.element ++ "..."]) := by
  have parameter : parameterChars style true [last] = [chars style last.element ++ ['.', '.', '.']] := by
    simp [parameterChars, array]
  rw [type_list_last, parameter, List.map_singleton, String.ofList_append]
  rfl

theorem type_list_no_array (style : Style) (types : List JavaType)
    (plain : ∀ last ∈ types.getLast?, last.isArray = false) :
    typeList style true types = typeList style false types := by
  rcases List.eq_nil_or_concat' types with rfl | ⟨front, last, rfl⟩
  · rfl
  · have none := plain last List.getLast?_concat
    have parameter : parameterChars style true [last] = parameterChars style false [last] := by
      simp [parameterChars, none]
    rw [type_list_last, type_list_last, parameter]

theorem dots_for_last_brackets (style : Style) :
    (∀ types : List JavaType, (∀ last ∈ types.getLast?, last.isArray = false) →
      typeList style true types = typeList style false types) ∧
    ∀ (front : List JavaType) (last : JavaType) (dimensions : Nat), last.dimensions = dimensions + 1 →
      let text := ", ".intercalate (front.map (write style) ++ [write style last.leaf ++ pairs dimensions])
      typeList style false (front ++ [last]) = text ++ "[]" ∧
        typeList style true (front ++ [last]) = text ++ "..." := by
  refine ⟨type_list_no_array style, fun front last dimensions more => ?_⟩
  intro text
  constructor
  · rw [type_list_fixed, write_leaf, more, pairs_last, ← String.append_assoc]
    exact Text.intercalate_last ", " _ "[]" _
  · have array : last.isArray = true := by simp [isArray, more]
    have fewer : last.element.dimensions = dimensions := by simp [element, more]
    rw [type_list_dots style front last array, write_leaf, fewer]
    exact Text.intercalate_last ", " _ "..." _

-- A nullable array whose type argument is an array as well, behind an array of numbers and in front of a
-- number.
theorem annotated_dots :
    let style : Style := ⟨true, some Options.usual.annotationName⟩
    let number := primitive "int"
    let text : JavaType :=
      { named .reference "java.lang" ["String"] with dimensions := 1, nullness := some .nonNull }
    let entry : JavaType :=
      { named .reference "java.util" ["Map", "Entry"] with
          arguments := [text, .wildcard], dimensions := 2, nullness := some .nullable }
    let numbers := { number with dimensions := 1 }
    (entry.dimensions = 1 + 1 ∧
      typeList style false [numbers, entry] = "int[], Map.@Nullable Entry<@NonNull String[],?>[][]" ∧
      typeList style true [numbers, entry] = "int[], Map.@Nullable Entry<@NonNull String[],?>[]...") ∧
    (∀ last ∈ [entry, number].getLast?, last.isArray = false) ∧
      typeList style true [entry, number] = typeList style false [entry, number] := by
  intro style number text entry numbers
  have plain : ∀ last ∈ [entry, number].getLast?, last.isArray = false := by simp [number, primitive, named, isArray]
  obtain ⟨same, dotted⟩ := dots_for_last_brackets style
  obtain ⟨brackets, dots⟩ := dotted [numbers] entry 1 rfl
  refine ⟨⟨rfl, brackets.trans ?_, dots.trans ?_⟩, plain, same _ plain⟩
  · decide +kernel
  · decide +kernel

end JavaType

end JavaDiagnostics
