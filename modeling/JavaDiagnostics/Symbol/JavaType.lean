import JavaDiagnostics.Options.Setting
import JavaDiagnostics.Text.Split
import JavaDiagnostics.Text.Uppercase

/-!
Types as messages name them: a package, a simple name behind those of its enclosing types, type
arguments and array dimensions, and what is known about nullness.
-/

set_option autoImplicit false

namespace JavaDiagnostics

inductive TypeKind where
  | primitive
  | reference
  | typeVariable
  | wildcard
  | nullType
deriving DecidableEq, Repr

def TypeKind.name : TypeKind → String
  | primitive => "primitive"
  | reference => "reference"
  | typeVariable => "variable"
  | wildcard => "wildcard"
  | nullType => "null"

structure JavaType where
  kind : TypeKind
  /-- Dotted; empty for the default package. -/
  package : String
  /-- The simple name comes last. -/
  names : List String
  arguments : List JavaType
  dimensions : Nat
  nullness : Option NullMark
  /-- The type was not found on the class path. -/
  missing : Bool

namespace JavaType

def named (kind : TypeKind) (package : String) (names : List String) : JavaType :=
  ⟨kind, package, names, [], 0, none, false⟩

def primitive (name : String) : JavaType := named .primitive "" [name]
def typeVariable (name : String) : JavaType := named .typeVariable "" [name]
def wildcard : JavaType := named .wildcard "" ["?"]
def nullType : JavaType := named .nullType "" ["null"]

def primitiveNames : List String :=
  ["boolean", "byte", "char", "short", "int", "long", "float", "double", "void"]

-- How often a text read backwards begins with brackets, white space after each aside, and the text
-- without them.
def brackets (text : List Char) : Nat × List Char :=
  match text with
  | ']' :: '[' :: rest =>
      let (count, body) := brackets (rest.dropWhile Text.isBlank)
      (count + 1, body)
  | _ => (0, text)
termination_by text.length
decreasing_by
  have bound := (List.dropWhile_sublist (l := rest) Text.isBlank).length_le
  simp only [List.length_cons]
  omega

def separates (c : Char) : Bool := c == '.' || c == '$'

def startsUpper (segment : List Char) : Bool := segment.head?.any fun c => Text.uppercase.has c.toNat

-- The segments of a package and those of a type. The first segment with an upper case initial begins
-- the type; if there is none it is the last segment alone.
def divide (segments : List (List Char)) : List (List Char) × List (List Char) :=
  match segments.dropWhile (!startsUpper ·) with
  | [] => (segments.dropLast, segments.getLast?.toList)
  | names => (segments.takeWhile (!startsUpper ·), names)

-- The type that a name in source text stands for: a primitive name, or segments between dots and
-- dollar signs, and brackets after it for the dimensions.
def parse (text : String) : JavaType :=
  let (dimensions, reversed) := brackets (Text.trimChars text.toList).reverse
  let body := String.ofList reversed.reverse
  let base :=
    if primitiveNames.contains body then primitive body
    else
      let (package, names) := divide (Text.words separates reversed.reverse)
      named .reference (String.ofList (List.intercalate ['.'] package)) (names.map String.ofList)
  { base with dimensions }

def isArray (type : JavaType) : Bool := type.dimensions > 0

def isPrimitive (type : JavaType) : Bool := type.kind == .primitive && type.dimensions == 0

def isParameterized (type : JavaType) : Bool := !type.arguments.isEmpty

def element (type : JavaType) : JavaType := { type with dimensions := type.dimensions - 1 }

def leaf (type : JavaType) : JavaType := { type with dimensions := 0 }

def erasure (type : JavaType) : JavaType := { type with arguments := [] }

def simpleName (type : JavaType) : String := type.names.getLast?.getD ""

def dotted (names : List String) : String := ".".intercalate names

def qualifiedName (type : JavaType) : String :=
  if type.package == "" then dotted type.names else type.package ++ "." ++ dotted type.names

end JavaType

end JavaDiagnostics
