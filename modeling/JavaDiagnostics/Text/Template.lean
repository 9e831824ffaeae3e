import JavaDiagnostics.Text.Numeral

/-!
Templates with numbered slots: a numeral in braces stands for the argument of that number. A template
is cut once into pieces; text put into a slot is never looked at again.
-/

set_option autoImplicit false

namespace JavaDiagnostics.Text

inductive Piece where
  | char (c : Char)
  | slot (spelling : List Char) (index : Nat)
deriving DecidableEq, Repr

namespace Piece

def written : Piece → List Char
  | .char c => [c]
  | .slot spelling _ => '\x7b' :: spelling ++ ['\x7d']

-- A slot past the last argument stays as it is written.
def filled (arguments : List String) : Piece → List Char
  | .char c => [c]
  | .slot spelling index =>
      match arguments[index]? with
      | some argument => argument.toList
      | none => (Piece.slot spelling index).written

end Piece

namespace Template

def indexBound : Nat := Nat.pow 2 64

-- The slot whose opening brace has just been read, and what follows its closing brace.
def slot? (text : List Char) : Option (List Char × Nat × List Char) :=
  let spelling := text.takeWhile (· != '\x7d')
  match text.drop spelling.length with
  | [] => none
  | _ :: rest => (Numeral.read 10 indexBound spelling).map fun index => (spelling, index, rest)

theorem slot?_shorter (text spelling rest : List Char) (index : Nat)
    (found : slot? text = some (spelling, index, rest)) : rest.length < text.length := by
  simp only [slot?] at found
  split at found
  · simp at found
  · rename_i c tail after
    obtain ⟨k, -, same⟩ := Option.map_eq_some_iff.mp found
    simp only [Prod.mk.injEq] at same
    obtain ⟨-, -, rfl⟩ := same
    have size := congrArg List.length after
    simp only [List.length_drop, List.length_cons] at size
    omega

def pieces : List Char → List Piece
  | [] => []
  | c :: text =>
      if c = '\x7b' then
        match found : slot? text with
        | some (spelling, index, rest) =>
            have := slot?_shorter text spelling rest index found
            .slot spelling index :: pieces rest
        | none => .char c :: pieces text
      else .char c :: pieces text
termination_by text => text.length
decreasing_by
  all_goals simp only [List.length_cons]; omega

def fill (template : String) (arguments : List String) : String :=
  String.ofList ((pieces template.toList).flatMap (Piece.filled arguments))

end Template

end JavaDiagnostics.Text
