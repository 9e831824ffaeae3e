import JavaDiagnostics.Text.CodePoints
import JavaDiagnostics.Text.Numeral
import JavaDiagnostics.Text.Unprintable

/-!
Quoted text for people to read: quotes, backslashes and the common controls have short escapes, and
characters that do not show by themselves are spelled by their code point.
-/

set_option autoImplicit false

namespace JavaDiagnostics.Text.Quoted

def escape (c : Char) : List Char :=
  if c = '"' then ['\\', '"']
  else if c = '\\' then ['\\', '\\']
  else if c = '\n' then ['\\', 'n']
  else if c = '\r' then ['\\', 'r']
  else if c = '\t' then ['\\', 't']
  else if c.toNat = 0 then ['\\', '0']
  else if unprintable.has c.toNat then
    '\\' :: 'u' :: '\x7b' :: Numeral.hexChars c.toNat ++ ['\x7d']
  else [c]

def quote (text : String) : String :=
  String.ofList ('"' :: text.toList.flatMap escape ++ ['"'])

end JavaDiagnostics.Text.Quoted
