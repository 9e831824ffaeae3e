import JavaDiagnostics.Text.Blank
import Mathlib.Data.List.DropRight

set_option autoImplicit false

namespace JavaDiagnostics.Text

theorem trim_end_eq (text : List Char) : trimEnd text = text.rdropWhile isBlank := rfl

theorem trim_start_solid (text : List Char) (solid : ∀ first ∈ text.head?, isBlank first = false) :
    trimStart text = text := by
  cases text with
  | nil => rfl
  | cons first rest =>
      have kept := solid first rfl
      simp [trimStart, kept]

theorem trim_end_solid (text : List Char) (solid : ∀ last ∈ text.getLast?, isBlank last = false) :
    trimEnd text = text := by
  rw [trim_end_eq, List.rdropWhile_eq_self_iff]
  intro nonempty
  have last := solid _ (List.getLast?_eq_some_getLast nonempty)
  simp [last]

theorem trim_chars_solid (text : List Char) (before : ∀ first ∈ text.head?, isBlank first = false)
    (after : ∀ last ∈ text.getLast?, isBlank last = false) : trimChars text = text := by
  rw [trimChars, trim_start_solid text before, trim_end_solid text after]

theorem trim_chars_without_blanks (text : List Char) (solid : ∀ c ∈ text, isBlank c = false) :
    trimChars text = text :=
  trim_chars_solid text (fun first found => solid first (List.mem_of_mem_head? found))
    (fun last found => solid last (List.mem_of_mem_getLast? found))

theorem trim_start_first (text : List Char) : ∀ first ∈ (trimStart text).head?, isBlank first = false := by
  intro first found
  have stopped := List.head?_dropWhile_not isBlank text
  rw [show (text.dropWhile isBlank).head? = some first from found] at stopped
  exact stopped

theorem trim_chars_first (text : List Char) : ∀ first ∈ (trimChars text).head?, isBlank first = false := by
  intro first found
  apply trim_start_first text first
  obtain ⟨tail, split⟩ := List.rdropWhile_prefix isBlank (l := trimStart text)
  rw [trimChars, trim_end_eq] at found
  rw [← split, List.head?_append, Option.mem_def.mp found]
  rfl

theorem trim_chars_twice (text : List Char) : trimChars (trimChars text) = trimChars text := by
  have start := trim_start_solid _ (trim_chars_first text)
  calc trimChars (trimChars text)
      _ = trimEnd (trimChars text) := congrArg trimEnd start
      _ = trimChars text := List.rdropWhile_idempotent isBlank (trimStart text)

theorem trim_twice (text : String) : trim (trim text) = trim text := by
  rw [trim, toList_trim, trim_chars_twice]
  rfl

theorem trim_of_list (text : List Char) (trimmed : trimChars text = text) :
    trim (String.ofList text) = String.ofList text := by
  rw [trim, String.toList_ofList, trimmed]

theorem trim_start_padded (space text : List Char) (white : ∀ c ∈ space, isBlank c = true) :
    trimStart (space ++ text) = trimStart text := List.dropWhile_append_of_pos white

theorem trim_end_padded (text space : List Char) (white : ∀ c ∈ space, isBlank c = true) :
    trimEnd (text ++ space) = trimEnd text := by
  have behind : ∀ c ∈ space.reverse, isBlank c = true := fun c member => white c (List.mem_reverse.mp member)
  rw [trimEnd, trimEnd, List.reverse_append, List.dropWhile_append_of_pos behind]

theorem trim_end_behind (front text : List Char) (c : Char) (solid : isBlank c = false) :
    trimEnd (front ++ c :: text) = front ++ c :: trimEnd text := by
  have stops : (c :: front.reverse).dropWhile isBlank = c :: front.reverse := by simp [solid]
  rw [trimEnd, trimEnd, List.reverse_append, List.reverse_cons, List.append_assoc, List.singleton_append,
    List.dropWhile_append]
  split
  next empty => simp [stops, List.isEmpty_iff.mp empty]
  next => simp

theorem trim_chars_padded (before text after : List Char) (front : ∀ c ∈ before, isBlank c = true)
    (back : ∀ c ∈ after, isBlank c = true) : trimChars (before ++ text ++ after) = trimChars text := by
  rw [trimChars, trimChars, List.append_assoc, trim_start_padded before _ front, trimStart, trimStart,
    List.dropWhile_append]
  split
  next empty =>
    rw [List.isEmpty_iff.mp empty, List.dropWhile_eq_nil_iff.mpr back]
  next => exact trim_end_padded _ after back

theorem trim_chars_end (text : List Char) : trimChars (trimEnd text) = trimChars text := by
  induction text using List.reverseRecOn with
  | nil => rfl
  | append_singleton front last ih =>
      by_cases blank : isBlank last = true
      · have white : ∀ c ∈ [last], isBlank c = true := by simp [blank]
        have shorter := trim_chars_padded [] front [last] (by simp) white
        rw [trim_end_padded front [last] white, ih]
        exact shorter.symm
      · rw [trim_end_eq, List.rdropWhile_concat_neg isBlank front last blank]

theorem trim_chars_nil (text : List Char) : trimChars text = [] ↔ ∀ c ∈ text, isBlank c = true := by
  constructor
  · intro nothing
    rw [trimChars, trim_end_eq, List.rdropWhile_eq_nil_iff] at nothing
    have start : trimStart text = [] := by
      cases left : trimStart text with
      | nil => rfl
      | cons first rest =>
          have solid := trim_start_first text first (by rw [left]; rfl)
          rw [nothing first (left ▸ List.mem_cons_self)] at solid
          cases solid
    exact List.dropWhile_eq_nil_iff.mp start
  · intro white
    rw [trimChars, trimStart, List.dropWhile_eq_nil_iff.mpr white]
    rfl

end JavaDiagnostics.Text
