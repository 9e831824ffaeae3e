import JavaDiagnostics.Json.Number

/-!
JSON values: numbers as numbers, texts as characters, and of members with the same key only the last,
in the order of the keys. Writing keeps the order of the members; text between quotes escapes quotes,
backslashes and control characters alone.
-/

set_option autoImplicit false

namespace JavaDiagnostics.Json

inductive Value where
  | null
  | bool (flag : Bool)
  | number (n : Number)
  | text (s : String)
  | array (items : List Value)
  | object (members : List (String × Value))

namespace Value

def put (key : String) (value : Value) : List (String × Value) → List (String × Value)
  | [] => [(key, value)]
  | (k, v) :: rest =>
      if key < k then (key, value) :: (k, v) :: rest
      else if key = k then (key, value) :: rest
      else (k, v) :: put key value rest

-- The value that a document stands for, when its arrays and objects are nested no deeper than
-- `levels`, its numbers are in range and its texts have no half of a surrogate pair.
def ofDocument? : Nat → Document → Option Value
  | _, .null => some .null
  | _, .bool flag => some (.bool flag)
  | _, .number numeral => (Number.ofNumeral? numeral).map .number
  | _, .text glyphs => (Glyph.string? glyphs).map .text
  | 0, .array _ => none
  | 0, .object _ => none
  | levels + 1, .array items => (items.mapM (ofDocument? levels)).map .array
  | levels + 1, .object members => do
      let pairs ← members.mapM fun (key, document) => do
        return (← Glyph.string? key, ← ofDocument? levels document)
      return .object (pairs.foldl (fun kept (key, value) => put key value kept) [])

def maxLevels : Nat := 127

def read (text : String) : Option Value := (Document.read text).bind (ofDocument? maxLevels)

def escape (c : Char) : List Char :=
  if c = '"' then ['\\', '"']
  else if c = '\\' then ['\\', '\\']
  else if c = '\n' then ['\\', 'n']
  else if c = '\r' then ['\\', 'r']
  else if c = '\t' then ['\\', 't']
  else if c.toNat = 8 then ['\\', 'b']
  else if c.toNat = 12 then ['\\', 'f']
  else if c.toNat < 32 then '\\' :: 'u' :: Text.Numeral.fixed 16 4 c.toNat
  else [c]

def quoted (s : String) : List Char := '"' :: s.toList.flatMap escape ++ ['"']

def commaSeparated (parts : List (List Char)) : List Char := List.intercalate [','] parts

mutual

def compactChars : Value → List Char
  | .null => ['n', 'u', 'l', 'l']
  | .bool true => ['t', 'r', 'u', 'e']
  | .bool false => ['f', 'a', 'l', 's', 'e']
  | .number n => n.write
  | .text s => quoted s
  | .array items => '[' :: commaSeparated (compactItems items) ++ [']']
  | .object members => '\x7b' :: commaSeparated (compactMembers members) ++ ['\x7d']

def compactItems : List Value → List (List Char)
  | [] => []
  | value :: rest => compactChars value :: compactItems rest

def compactMembers : List (String × Value) → List (List Char)
  | [] => []
  | (key, value) :: rest => (quoted key ++ ':' :: compactChars value) :: compactMembers rest

end

def compact (value : Value) : String := String.ofList value.compactChars

def lineBreak (depth : Nat) : List Char := '\n' :: List.replicate (2 * depth) ' '

def block (opening closing : Char) (depth : Nat) (parts : List (List Char)) : List Char :=
  match parts with
  | [] => [opening, closing]
  | _ =>
      let lines := parts.map (lineBreak (depth + 1) ++ ·)
      opening :: commaSeparated lines ++ lineBreak depth ++ [closing]

mutual

def indentedChars (depth : Nat) : Value → List Char
  | .array items => block '[' ']' depth (indentedItems (depth + 1) items)
  | .object members => block '\x7b' '\x7d' depth (indentedMembers (depth + 1) members)
  | .null => compactChars .null
  | .bool flag => compactChars (.bool flag)
  | .number n => compactChars (.number n)
  | .text s => compactChars (.text s)

def indentedItems (depth : Nat) : List Value → List (List Char)
  | [] => []
  | value :: rest => indentedChars depth value :: indentedItems depth rest

def indentedMembers (depth : Nat) : List (String × Value) → List (List Char)
  | [] => []
  | (key, value) :: rest =>
      (quoted key ++ ':' :: ' ' :: indentedChars depth value) :: indentedMembers depth rest

end

def indented (value : Value) : String := String.ofList (indentedChars 0 value)

def ofNat (n : Nat) : Value := .number (.natural n)

end Value

end JavaDiagnostics.Json
