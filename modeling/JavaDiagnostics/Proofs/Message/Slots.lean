import JavaDiagnostics.Message

set_option autoImplicit false

namespace JavaDiagnostics

namespace Text.Piece

def fits (count : Nat) : Piece → Bool
  | .char _ => true
  | .slot _ index => index < count

def inserted (arguments : List String) : Piece → List Char
  | .char c => [c]
  | .slot _ index => (arguments.getD index "").toList

theorem filled_inserted (arguments : List String) (piece : Piece)
    (fit : piece.fits arguments.length = true) : piece.filled arguments = piece.inserted arguments := by
  cases piece with
  | char c => rfl
  | slot spelling index =>
      have bound : index < arguments.length := of_decide_eq_true fit
      simp [filled, inserted, bound]

theorem filled_all (arguments : List String) (pieces : List Piece)
    (fit : pieces.all (fits arguments.length) = true) :
    pieces.flatMap (filled arguments) = pieces.flatMap (inserted arguments) := by
  induction pieces with
  | nil => rfl
  | cons piece rest ih =>
      obtain ⟨first, later⟩ := Bool.and_eq_true_iff.mp fit
      rw [List.flatMap_cons, List.flatMap_cons, filled_inserted arguments piece first, ih later]

end Text.Piece

namespace Code

structure Takes (code : Code) (count : Nat) (template : String) : Prop where
  found : code.template? = some template
  fit : (Text.Template.pieces template.toList).all (Text.Piece.fits count) = true

-- The characters of a template are read off it more quickly than it is taken apart.
theorem takes_chars {code : Code} {chars : List Char} (count : Nat)
    (found : code.template? = some (String.ofList chars))
    (fit : (Text.Template.pieces chars).all (Text.Piece.fits count) = true) :
    ∃ template, code.Takes count template :=
  ⟨String.ofList chars, found, by rw [String.toList_ofList]; exact fit⟩

theorem takes_slot (code : Code) (count : Nat) (template : String) (takes : code.Takes count template)
    (spelling : List Char) (index : Nat)
    (slot : .slot spelling index ∈ Text.Template.pieces template.toList) : index < count :=
  of_decide_eq_true (List.all_eq_true.mp takes.fit (.slot spelling index) slot)

theorem takes_message (code : Code) (arguments : List String) (template : String)
    (takes : code.Takes arguments.length template) :
    code.message arguments = (if code.belongsTo .javadoc then lead else "") ++
      String.ofList ((Text.Template.pieces template.toList).flatMap (Text.Piece.inserted arguments)) := by
  unfold message Text.Template.fill
  simp only [takes.found, Text.Piece.filled_all arguments _ takes.fit]
  split
  · rfl
  · exact String.empty_append.symm

end Code

end JavaDiagnostics
