import JavaDiagnostics.Options
import JavaDiagnostics.Symbol.JavaType

/-!
Readable names, full or short, with annotations for nullness or without. Names that stand side by side
are told apart if anything can tell them apart.
-/

set_option autoImplicit false

namespace JavaDiagnostics

structure Style where
  /-- Leaves out packages. -/
  short : Bool
  /-- The names of the annotations, where nullness is shown. -/
  marks : Option (NullMark → String)

namespace Style

def full : Style := ⟨false, none⟩
def brief : Style := ⟨true, none⟩

def both (marks : Option (NullMark → String)) : List Style := [⟨false, marks⟩, ⟨true, marks⟩]

def mark (style : Style) (nullness : Option NullMark) : List Char :=
  match style.marks, nullness with
  | some names, some mark =>
      let name := names mark
      '@' :: (if style.short then Options.lastPart name else name).toList ++ [' ']
  | _, _ => []

end Style

namespace JavaType

def nameChars (mark : List Char) : List String → List Char
  | [] => mark
  | [simple] => mark ++ simple.toList
  | enclosing :: rest => enclosing.toList ++ '.' :: nameChars mark rest

def bracketChars : Nat → List Char
  | 0 => []
  | dimensions + 1 => '[' :: ']' :: bracketChars dimensions

def angled : List (List Char) → List Char
  | [] => []
  | arguments => '<' :: List.intercalate [','] arguments ++ ['>']

def packageChars (style : Style) (package : String) : List Char :=
  if style.short || package == "" then [] else package.toList ++ ['.']

mutual

def chars (style : Style) : JavaType → List Char
  | ⟨_, package, names, arguments, dimensions, nullness, _⟩ =>
      packageChars style package ++ nameChars (style.mark nullness) names ++
        angled (argumentChars style arguments) ++ bracketChars dimensions

def argumentChars (style : Style) : List JavaType → List (List Char)
  | [] => []
  | type :: rest => chars style type :: argumentChars style rest

end

-- A parameter list; with `variable` arity the last array shows dots for its last dimension.
def parameterChars (style : Style) (variableArity : Bool) : List JavaType → List (List Char)
  | [] => []
  | [last] =>
      if variableArity && last.isArray then [chars style last.element ++ ['.', '.', '.']]
      else [chars style last]
  | type :: rest => chars style type :: parameterChars style variableArity rest

end JavaType

def typeList (style : Style) (variableArity : Bool) (types : List JavaType) : String :=
  String.ofList (List.intercalate [',', ' '] (JavaType.parameterChars style variableArity types))

class Readable (α : Type) where
  write : Style → α → String

export Readable (write)

instance : Readable JavaType where
  write style type := String.ofList (type.chars style)

structure NamePair where
  full : String × String
  short : String × String
deriving DecidableEq, Repr

-- Names for two things that are shown together. Short names that coincide give way to full ones, and
-- full names that coincide to names with their nullness.
def NamePair.of {α : Type} [Readable α] (options : Options) (first second : α) : NamePair :=
  let names (style : Style) := (write style first, write style second)
  let apart (pair : String × String) := pair.1 != pair.2
  if apart (names .brief) then ⟨names .full, names .brief⟩
  else if apart (names .full) then ⟨names .full, names .full⟩
  else ⟨names ⟨false, some options.annotationName⟩, names ⟨true, some options.annotationName⟩⟩

end JavaDiagnostics
