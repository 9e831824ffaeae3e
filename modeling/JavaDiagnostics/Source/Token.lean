import JavaDiagnostics.Source.Span

/-!
The tokens of Java source, as far as brackets and parentheses are looked for, and the characters that
tell them apart.
-/

set_option autoImplicit false

namespace JavaDiagnostics

inductive TokenKind where
  | identifier
  | literal
  | less
  | greater
  | openParen
  | closeParen
  | openBrace
  | closeBrace
  | semicolon
  | other
deriving DecidableEq, Repr

structure Token where
  kind : TokenKind
  span : Span
deriving DecidableEq, Repr

namespace Token

def isLineEnd (c : Char) : Bool := c == '\n' || c == '\r'

def isDigit (c : Char) : Bool := '0' ≤ c && c ≤ '9'

def isNumberPart (c : Char) : Bool := c.isAlphanum || c == '.' || c == '_'

theorem number_part_of_digit (c : Char) (digit : isDigit c = true) : isNumberPart c = true := by
  have digits : c.isDigit = true := digit
  simp [isNumberPart, Char.isAlphanum, digits]

def punctuation? : Char → Option TokenKind
  | '<' => some .less
  | '>' => some .greater
  | '(' => some .openParen
  | ')' => some .closeParen
  | '\x7b' => some .openBrace
  | '\x7d' => some .closeBrace
  | ';' => some .semicolon
  | _ => none

end Token

end JavaDiagnostics
