import JavaDiagnostics.Text.CodePoints

/-!
White space (the property `White_Space`) and trimming.
-/

set_option autoImplicit false

namespace JavaDiagnostics.Text

def blanks : CodePoints :=
  [(0x9, 0xD), (0x20, 0x20), (0x85, 0x85), (0xA0, 0xA0), (0x1680, 0x1680), (0x2000, 0x200A),
   (0x2028, 0x2029), (0x202F, 0x202F), (0x205F, 0x205F), (0x3000, 0x3000)]

def isBlank (c : Char) : Bool := blanks.has c.toNat

def trimStart (text : List Char) : List Char := text.dropWhile isBlank

def trimEnd (text : List Char) : List Char := (text.reverse.dropWhile isBlank).reverse

def trimChars (text : List Char) : List Char := trimEnd (trimStart text)

def trim (text : String) : String := String.ofList (trimChars text.toList)

@[simp] theorem toList_trim (text : String) : (trim text).toList = trimChars text.toList := by
  simp [trim]

def sameLetters (first second : String) : Bool :=
  first.toList.map Char.toLower == second.toList.map Char.toLower

end JavaDiagnostics.Text
