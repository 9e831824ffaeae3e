import Mathlib.Data.List.Nodup

/-!
That texts are distinct is seen from numbers made of their letters, each of which sets a bit of its own in a mask.
-/

set_option autoImplicit false

namespace JavaDiagnostics.Text

theorem find_distinct {α : Type} (key : α → String) (all : List α) (distinct : (all.map key).Nodup) (one : α)
    (listed : one ∈ all) : all.find? (fun other => key other == key one) = some one := by
  cases found : all.find? fun other => key other == key one with
  | none =>
      have missed := List.find?_eq_none.mp found one listed
      exact absurd (beq_self_eq_true (key one)) missed
  | some other =>
      have same : (key other == key one) = true := by simpa using List.find?_some found
      have member : other ∈ all := List.mem_of_find?_eq_some found
      rw [List.inj_on_of_nodup_map distinct member listed (beq_iff_eq.mp same)]

def setsFresh (mask : Nat) : List Nat → Bool
  | [] => true
  | n :: rest => !mask.testBit n && setsFresh (mask ||| 1 <<< n) rest

theorem fresh_distinct (mask : Nat) (numbers : List Nat) (fresh : setsFresh mask numbers = true) :
    numbers.Nodup ∧ ∀ n ∈ numbers, mask.testBit n = false := by
  induction numbers generalizing mask with
  | nil => exact ⟨.nil, nofun⟩
  | cons n rest ih =>
      rw [setsFresh, Bool.and_eq_true, Bool.not_eq_true'] at fresh
      obtain ⟨unset, later⟩ := fresh
      obtain ⟨distinct, free⟩ := ih _ later
      simp only [Nat.testBit_or, Bool.or_eq_false_iff] at free
      have apart : n ∉ rest := by
        intro again
        simpa [Nat.testBit_shiftLeft] using (free n again).2
      exact ⟨distinct.cons apart, List.forall_mem_cons.mpr ⟨unset, fun m member => (free m member).1⟩⟩

theorem spelled_distinct (texts : List String) (spellings : List (List Char)) (number : List Char → Nat)
    (spelled : texts = spellings.map String.ofList) (fresh : setsFresh 0 (spellings.map number) = true) :
    texts.Nodup := by
  have apart : spellings.Nodup := .of_map number (fresh_distinct 0 _ fresh).1
  rw [spelled]
  exact apart.map fun _ _ equal => String.ofList_injective equal

end JavaDiagnostics.Text
