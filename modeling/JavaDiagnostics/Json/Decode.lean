import JavaDiagnostics.Json.Number

/-!
Values of known shape in JSON documents: numbers without sign, texts, one of several names, lists, and
records. A record is an object with its fields in any order or an array with all of them in order.
-/

set_option autoImplicit false

namespace JavaDiagnostics.Json.Document

def natural? (bound : Nat) : Document → Option Nat
  | .number numeral =>
      match Number.ofNumeral? numeral with
      | some (.natural n) => if n < bound then some n else none
      | _ => none
  | _ => none

def word? (document : Document) : Option UInt32 := (document.natural? (Nat.pow 2 32)).map UInt32.ofNat

def offset? (document : Document) : Option Nat := document.natural? (Nat.pow 2 64)

def flag? : Document → Option Bool
  | .bool flag => some flag
  | _ => none

def string? : Document → Option String
  | .text glyphs => Glyph.string? glyphs
  | _ => none

def strings? : Document → Option (List String)
  | .array items => items.mapM string?
  | _ => none

def optional? {α : Type} (read : Document → Option α) : Document → Option (Option α)
  | .null => some none
  | document => (read document).map some

def name? : Document → Option String
  | .text glyphs => Glyph.string? glyphs
  | .object [(key, .null)] => Glyph.string? key
  | _ => none

def oneOf? {α : Type} (all : List α) (name : α → String) (document : Document) : Option α := do
  let text ← document.name?
  all.find? fun choice => name choice == text

-- The value of a field that stands at most once; `some none` if it does not stand at all.
def field? (members : List (String × Document)) (name : String) : Option (Option Document) :=
  match members.filter fun member => member.1 == name with
  | [] => some none
  | [member] => some (some member.2)
  | _ => none

-- The values of the named fields, as far as they are there. Other fields are passed over.
def record? (names : List String) : Document → Option (List (Option Document))
  | .array items => if items.length = names.length then some (items.map some) else none
  | .object members => do
      let keyed ← members.mapM fun (key, value) => (Glyph.string? key).map (·, value)
      names.mapM (field? keyed)
  | _ => none

end JavaDiagnostics.Json.Document
