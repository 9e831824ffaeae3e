import JavaDiagnostics.Text.Split
import Mathlib.Data.List.TakeWhile

set_option autoImplicit false

namespace JavaDiagnostics.Text

theorem cut_front {α : Type} (passes : α → Bool) (front rest : List α) (passed : ∀ c ∈ front, passes c = true)
    (stops : ∀ c ∈ rest.head?, passes c = false) :
    (front ++ rest).takeWhile passes = front ∧ (front ++ rest).dropWhile passes = rest := by
  rw [List.takeWhile_append_of_pos passed, List.dropWhile_append_of_pos passed]
  cases rest with
  | nil => simp
  | cons c others => simp [stops c rfl]

theorem other_than (separator : Char) (text : List Char) (absent : separator ∉ text) :
    ∀ c ∈ text, (c != separator) = true :=
  fun _ member => bne_iff_ne.mpr (ne_of_mem_of_not_mem member absent)

theorem take_until (separator : Char) (front rest : List Char) (absent : separator ∉ front) :
    (front ++ separator :: rest).takeWhile (· != separator) = front :=
  (cut_front _ front (separator :: rest) (other_than separator front absent) (by simp)).1

theorem take_whole (separator : Char) (text : List Char) (absent : separator ∉ text) :
    text.takeWhile (· != separator) = text :=
  List.takeWhile_eq_self_iff.mpr (other_than separator text absent)

theorem words_separator (separates : Char → Bool) (c : Char) (rest : List Char) (separator : separates c = true) :
    words separates (c :: rest) = words separates rest := by
  rw [words, if_pos separator]

theorem words_front (separates : Char → Bool) (front rest : List Char) (given : front ≠ [])
    (free : ∀ c ∈ front, separates c = false) (stops : ∀ c ∈ rest.head?, separates c = true) :
    words separates (front ++ rest) = front :: words separates rest := by
  cases front with
  | nil => exact absurd rfl given
  | cons first further =>
      obtain ⟨inner, later⟩ := List.forall_mem_cons.mp free
      have passed : ∀ c ∈ further, (!separates c) = true := fun c member => by simp [later c member]
      have stopped : ∀ c ∈ rest.head?, (!separates c) = false := fun c member => by simp [stops c member]
      obtain ⟨taken, left⟩ := cut_front (!separates ·) further rest passed stopped
      rw [List.cons_append, words, if_neg (by simp [inner]), taken, left]

end JavaDiagnostics.Text
