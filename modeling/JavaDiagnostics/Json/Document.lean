/-!
JSON documents as written: numbers keep their digits, texts their escapes, and objects every member in
order. Reading is one pass over the tokens with the open arrays and objects on a stack.
-/

set_option autoImplicit false

namespace JavaDiagnostics.Json

-- What a text is written with: a character, or a UTF-16 unit given by an escape.
inductive Glyph where
  | char (c : Char)
  | unit (n : Nat)
deriving DecidableEq, Repr

structure Numeral where
  negative : Bool
  whole : List Char
  fraction : List Char
  exponent : Option (Bool × List Char)
deriving DecidableEq, Repr

inductive Document where
  | null
  | bool (value : Bool)
  | number (numeral : Numeral)
  | text (glyphs : List Glyph)
  | array (items : List Document)
  | object (members : List (List Glyph × Document))

inductive Token where
  | openArray
  | closeArray
  | openObject
  | closeObject
  | comma
  | colon
  | null
  | bool (value : Bool)
  | number (numeral : Numeral)
  | text (glyphs : List Glyph)

def isDigit (c : Char) : Bool := 48 ≤ c.toNat && c.toNat ≤ 57

def wholePart? (text : List Char) : Option (List Char × List Char) :=
  match text with
  | '0' :: rest => some (['0'], rest)
  | _ =>
      match text.takeWhile isDigit with
      | [] => none
      | digits => some (digits, text.drop digits.length)

def fractionPart? (text : List Char) : Option (List Char × List Char) :=
  match text with
  | '.' :: rest =>
      match rest.takeWhile isDigit with
      | [] => none
      | digits => some (digits, rest.drop digits.length)
  | _ => some ([], text)

def exponentPart? (text : List Char) : Option (Option (Bool × List Char) × List Char) :=
  let after? := match text with
    | 'e' :: rest => some rest
    | 'E' :: rest => some rest
    | _ => none
  match after? with
  | none => some (none, text)
  | some rest =>
      let (negative, body) := match rest with
        | '+' :: body => (false, body)
        | '-' :: body => (true, body)
        | _ => (false, rest)
      match body.takeWhile isDigit with
      | [] => none
      | digits => some (some (negative, digits), body.drop digits.length)

def numeral? (negative : Bool) (text : List Char) : Option (Numeral × List Char) := do
  let (whole, text) ← wholePart? text
  let (fraction, text) ← fractionPart? text
  let (exponent, text) ← exponentPart? text
  return (⟨negative, whole, fraction, exponent⟩, text)

def hexDigit? (c : Char) : Option Nat :=
  let n := c.toNat
  if 48 ≤ n ∧ n ≤ 57 then some (n - 48)
  else if 97 ≤ n ∧ n ≤ 102 then some (n - 87)
  else if 65 ≤ n ∧ n ≤ 70 then some (n - 55)
  else none

def shortEscape? : Char → Option Char
  | '"' => some '"'
  | '\\' => some '\\'
  | '/' => some '/'
  | 'b' => some '\x08'
  | 'f' => some '\x0c'
  | 'n' => some '\n'
  | 'r' => some '\r'
  | 't' => some '\t'
  | _ => none

-- The text whose opening quote has just been read. Control characters must be escaped.
def text? : List Char → Option (List Glyph × List Char)
  | [] => none
  | '"' :: rest => some ([], rest)
  | '\\' :: 'u' :: a :: b :: c :: d :: rest => do
      let unit := (← hexDigit? a) * 4096 + (← hexDigit? b) * 256 + (← hexDigit? c) * 16 + (← hexDigit? d)
      let (glyphs, rest) ← text? rest
      return (.unit unit :: glyphs, rest)
  | '\\' :: escape :: rest => do
      let c ← shortEscape? escape
      let (glyphs, rest) ← text? rest
      return (.char c :: glyphs, rest)
  | c :: rest =>
      if c.toNat < 32 ∨ c = '\\' then none
      else do
        let (glyphs, rest) ← text? rest
        return (.char c :: glyphs, rest)

def token? : List Char → Option (Token × List Char)
  | '[' :: rest => some (.openArray, rest)
  | ']' :: rest => some (.closeArray, rest)
  | '\x7b' :: rest => some (.openObject, rest)
  | '\x7d' :: rest => some (.closeObject, rest)
  | ',' :: rest => some (.comma, rest)
  | ':' :: rest => some (.colon, rest)
  | 'n' :: 'u' :: 'l' :: 'l' :: rest => some (.null, rest)
  | 't' :: 'r' :: 'u' :: 'e' :: rest => some (.bool true, rest)
  | 'f' :: 'a' :: 'l' :: 's' :: 'e' :: rest => some (.bool false, rest)
  | '"' :: rest => (text? rest).map fun (glyphs, rest) => (.text glyphs, rest)
  | '-' :: rest => (numeral? true rest).map fun (numeral, rest) => (.number numeral, rest)
  | text => (numeral? false text).map fun (numeral, rest) => (.number numeral, rest)

def isSpace (c : Char) : Bool := c == ' ' || c == '\t' || c == '\n' || c == '\r'

-- The tokens of a text. A token that took nothing would end the reading.
def tokens? : List Char → Option (List Token)
  | [] => some []
  | c :: tail =>
      if isSpace c then tokens? tail
      else
        match token? (c :: tail) with
        | none => none
        | some (token, rest) =>
            if rest.length < tail.length + 1 then (tokens? rest).map (token :: ·) else none
termination_by text => text.length
decreasing_by all_goals simp only [List.length_cons]; omega

-- A container waiting for the value that comes next; what it already has stands in reverse.
inductive Frame where
  | item (items : List Document)
  | member (members : List (List Glyph × Document)) (key : List Glyph)

inductive State where
  | value (stack : List Frame)
  | arrayOpened (stack : List Frame)
  | objectOpened (stack : List Frame)
  | key (members : List (List Glyph × Document)) (stack : List Frame)
  | colon (members : List (List Glyph × Document)) (key : List Glyph) (stack : List Frame)
  | afterItem (items : List Document) (stack : List Frame)
  | afterMember (members : List (List Glyph × Document)) (stack : List Frame)
  | finished (document : Document)

namespace State

def complete (document : Document) : List Frame → State
  | [] => finished document
  | .item items :: stack => afterItem (document :: items) stack
  | .member members name :: stack => afterMember ((name, document) :: members) stack

def start (stack : List Frame) : Token → Option State
  | .null => some (complete .null stack)
  | .bool flag => some (complete (.bool flag) stack)
  | .number numeral => some (complete (.number numeral) stack)
  | .text glyphs => some (complete (.text glyphs) stack)
  | .openArray => some (arrayOpened stack)
  | .openObject => some (objectOpened stack)
  | _ => none

def step : State → Token → Option State
  | value stack, token => start stack token
  | arrayOpened stack, .closeArray => some (complete (.array []) stack)
  | arrayOpened stack, token => start (.item [] :: stack) token
  | objectOpened stack, .closeObject => some (complete (.object []) stack)
  | objectOpened stack, .text name => some (colon [] name stack)
  | key members stack, .text name => some (colon members name stack)
  | colon members name stack, .colon => some (value (.member members name :: stack))
  | afterItem items stack, .comma => some (value (.item items :: stack))
  | afterItem items stack, .closeArray => some (complete (.array items.reverse) stack)
  | afterMember members stack, .comma => some (key members stack)
  | afterMember members stack, .closeObject => some (complete (.object members.reverse) stack)
  | _, _ => none

end State

namespace Document

def ofTokens? (tokens : List Token) : Option Document :=
  match tokens.foldlM State.step (.value []) with
  | some (.finished document) => some document
  | _ => none

def read (text : String) : Option Document := (tokens? text.toList).bind ofTokens?

end Document

namespace Glyph

def highSurrogate (n : Nat) : Bool := 0xD800 ≤ n && n ≤ 0xDBFF
def lowSurrogate (n : Nat) : Bool := 0xDC00 ≤ n && n ≤ 0xDFFF

-- The characters that are written. Units of a pair make one character; half a pair makes none.
def chars? : List Glyph → Option (List Char)
  | [] => some []
  | .char c :: rest => (chars? rest).map (c :: ·)
  | .unit high :: .unit low :: rest =>
      if highSurrogate high && lowSurrogate low then
        (chars? rest).map (Char.ofNat ((high - 0xD800) * 1024 + (low - 0xDC00) + 0x10000) :: ·)
      else if highSurrogate high || lowSurrogate high then none
      else (chars? (.unit low :: rest)).map (Char.ofNat high :: ·)
  | .unit n :: rest =>
      if highSurrogate n || lowSurrogate n then none else (chars? rest).map (Char.ofNat n :: ·)

def string? (glyphs : List Glyph) : Option String := (chars? glyphs).map String.ofList

end Glyph

end JavaDiagnostics.Json
