import JavaDiagnostics.Proofs.Text.Numeral
import JavaDiagnostics.Proofs.Text.Split
import JavaDiagnostics.Text.Template
import Mathlib.Data.List.Forall2

set_option autoImplicit false

namespace JavaDiagnostics.Text

namespace Piece

inductive Shows (arguments : List String) : Piece → List Char → Prop where
  | text (c : Char) : Shows arguments (.char c) [c]
  | given (spelling : List Char) (index : Nat) (bound : index < arguments.length) :
      Shows arguments (.slot spelling index) arguments[index].toList
  | beyond (spelling : List Char) (index : Nat) (bound : arguments.length ≤ index) :
      Shows arguments (.slot spelling index) ('\x7b' :: spelling ++ ['\x7d'])

theorem filled_shows (arguments : List String) (piece : Piece) :
    Shows arguments piece (piece.filled arguments) := by
  cases piece with
  | char c => exact .text c
  | slot spelling index =>
      by_cases bound : index < arguments.length
      · rw [filled, List.getElem?_eq_getElem bound]
        exact .given spelling index bound
      · rw [filled, List.getElem?_eq_none (Nat.le_of_not_lt bound)]
        exact .beyond spelling index (Nat.le_of_not_lt bound)

theorem filled_none (piece : Piece) : piece.filled [] = piece.written := by
  cases piece <;> rfl

end Piece

namespace Template

structure Inner (spelling : List Char) (index : Nat) : Prop where
  single : '\x7d' ∉ spelling
  number : Numeral.Decimal indexBound spelling index

structure Opens (text spelling : List Char) (index : Nat) (rest : List Char) : Prop where
  closed : text = spelling ++ '\x7d' :: rest
  inner : Inner spelling index

theorem slot_closed (front rest : List Char) (single : '\x7d' ∉ front) :
    slot? (front ++ '\x7d' :: rest) =
      (Numeral.read 10 indexBound front).map fun index => (front, index, rest) := by
  simp only [slot?, take_until '\x7d' front rest single, List.drop_left]

theorem slot_unclosed (text : List Char) (unclosed : '\x7d' ∉ text) : slot? text = none := by
  simp only [slot?, take_whole '\x7d' text unclosed, List.drop_length]

theorem slot_iff (text spelling rest : List Char) (index : Nat) :
    slot? text = some (spelling, index, rest) ↔ Opens text spelling index rest := by
  refine ⟨fun found => ?_, fun opens => ?_⟩
  · by_cases closed : '\x7d' ∈ text
    · obtain ⟨front, further, rfl, single⟩ := List.eq_append_cons_of_mem closed
      rw [slot_closed front further single] at found
      obtain ⟨value, number, same⟩ := Option.map_eq_some_iff.mp found
      cases same
      exact ⟨rfl, single, (Numeral.read_iff _ _ _).mp number⟩
    · rw [slot_unclosed text closed] at found
      cases found
  · obtain ⟨rfl, single, number⟩ := opens
    rw [slot_closed spelling rest single, (Numeral.read_iff _ _ _).mpr number]
    rfl

-- The pieces of a template. No brace that is left as text opens a slot.
structure Cut (template : List Char) (pieces : List Piece) : Prop where
  whole : pieces.flatMap Piece.written = template
  slots : ∀ spelling index, .slot spelling index ∈ pieces → Inner spelling index
  unopened : ∀ before after, pieces = before ++ .char '\x7b' :: after →
    ∀ spelling index rest, ¬ Opens (after.flatMap Piece.written) spelling index rest

theorem Cut.nil : Cut [] [] := ⟨rfl, nofun, by simp⟩

theorem Cut.text {template : List Char} {pieces : List Piece} (cut : Cut template pieces) (c : Char)
    (closed : c = '\x7b' → slot? template = none) : Cut (c :: template) (.char c :: pieces) := by
  refine ⟨?_, fun spelling index member => ?_, fun before after split spelling index rest opens => ?_⟩
  · rw [List.flatMap_cons, cut.whole]
    rfl
  · exact cut.slots spelling index ((List.mem_cons.mp member).resolve_left nofun)
  · cases before with
    | nil =>
        cases split
        rw [cut.whole, ← slot_iff, closed rfl] at opens
        cases opens
    | cons piece others =>
        exact cut.unopened others after (List.cons.inj split).2 spelling index rest opens

theorem Cut.slot {template : List Char} {pieces : List Piece} (cut : Cut template pieces)
    (spelling : List Char) (index : Nat) (inner : Inner spelling index) :
    Cut ('\x7b' :: (spelling ++ '\x7d' :: template)) (.slot spelling index :: pieces) := by
  refine ⟨?_, fun other number member => ?_, fun before after split => ?_⟩
  · simp [Piece.written, cut.whole]
  · rcases List.mem_cons.mp member with same | later
    · cases same
      exact inner
    · exact cut.slots other number later
  · cases before with
    | nil => cases split
    | cons piece others => exact cut.unopened others after (List.cons.inj split).2

theorem Cut.tail {template : List Char} {piece : Piece} {pieces : List Piece}
    (cut : Cut template (piece :: pieces)) : Cut (pieces.flatMap Piece.written) pieces :=
  ⟨rfl, fun spelling index member => cut.slots spelling index (.tail _ member),
    fun before after split => cut.unopened (piece :: before) after (congrArg (piece :: ·) split)⟩

theorem pieces_cut (template : List Char) : Cut template (pieces template) := by
  fun_induction pieces template with
  | case1 => exact .nil
  | case2 text spelling index rest found _ ih =>
      obtain ⟨rfl, inner⟩ := (slot_iff _ _ _ _).mp found
      exact ih.slot spelling index inner
  | case3 text found ih => exact ih.text _ fun _ => found
  | case4 c text other ih => exact ih.text c fun same => absurd same other

theorem pieces_text (c : Char) (text : List Char) (closed : c = '\x7b' → slot? text = none) :
    pieces (c :: text) = .char c :: pieces text := by
  rw [pieces]
  split
  next opening =>
    split
    next found =>
      rw [closed opening] at found
      cases found
    next => rfl
  next => rfl

theorem pieces_slot (spelling rest : List Char) (index : Nat) (inner : Inner spelling index) :
    pieces ('\x7b' :: (spelling ++ '\x7d' :: rest)) = .slot spelling index :: pieces rest := by
  have slot := (slot_iff _ spelling rest index).mpr ⟨rfl, inner⟩
  rw [pieces, if_pos rfl]
  split
  next found =>
    rw [slot] at found
    cases found
    rfl
  next found =>
    rw [slot] at found
    cases found

-- From front to back: a brace that is left as text opens no slot, and so the text decides on each piece.
theorem Cut.unique {template : List Char} {others : List Piece} (cut : Cut template others) :
    others = pieces template := by
  induction others generalizing template with
  | nil =>
      obtain rfl : [] = template := cut.whole
      rw [pieces]
  | cons piece later ih =>
      have further := ih cut.tail
      have whole := cut.whole
      rw [List.flatMap_cons] at whole
      subst whole
      cases piece with
      | char c =>
          have closed : c = '\x7b' → slot? (later.flatMap Piece.written) = none := by
            rintro rfl
            rw [Option.eq_none_iff_forall_ne_some]
            exact fun slot found =>
              cut.unopened [] later rfl slot.1 slot.2.1 slot.2.2 ((slot_iff _ _ _ _).mp found)
          have front := pieces_text c _ closed
          rw [← further] at front
          exact front.symm
      | slot spelling index =>
          have inner := cut.slots spelling index (.head _)
          have front := pieces_slot spelling (later.flatMap Piece.written) index inner
          rw [← further] at front
          simpa [Piece.written] using front.symm

theorem filled_piecewise (template : String) :
    ∃ pieces, Cut template.toList pieces ∧ (∀ others, Cut template.toList others → others = pieces) ∧
      (∀ arguments, ∃ texts, List.Forall₂ (Piece.Shows arguments) pieces texts ∧
        (fill template arguments).toList = texts.flatten) ∧
      fill template [] = template := by
  have cut := pieces_cut template.toList
  refine ⟨pieces template.toList, cut, fun others => Cut.unique, fun arguments => ?_, ?_⟩
  · refine ⟨(pieces template.toList).map (Piece.filled arguments), ?_, ?_⟩
    · rw [List.forall₂_map_right_iff, List.forall₂_same]
      exact fun piece _ => Piece.filled_shows arguments piece
    · rw [fill, String.toList_ofList, List.flatMap_def]
  · rw [fill, funext Piece.filled_none, cut.whole, String.ofList_toList]

-- A failed slot does not hide the one that begins inside it, and an argument is not looked at again.
example : fill "\x7b\x7b+01\x7d\x7b0\x7d\x7b9\x7d" ["\x7b1\x7d", "b"] = "\x7bb\x7b1\x7d\x7b9\x7d" := by cbv

end Template

end JavaDiagnostics.Text
