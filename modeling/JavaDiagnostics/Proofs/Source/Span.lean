import JavaDiagnostics.Source.Span
import Mathlib.Order.Interval.Finset.Nat

/-!
What is kept of a stretch is its last offset, and none stands before zero: built by length, the empty stretch
at offset zero comes out with one offset in it.
-/

set_option autoImplicit false

namespace JavaDiagnostics

namespace Span

def offsets (span : Span) : Finset Nat := Finset.Icc span.start span.stop

theorem mem_offsets (span : Span) (offset : Nat) : offset ∈ span.offsets ↔ span.contains offset = true := by
  rw [offsets, Finset.mem_Icc, contains, Bool.and_eq_true, decide_eq_true_eq, decide_eq_true_eq]

theorem length_counts (span : Span) : span.length = span.offsets.card := by
  rw [offsets, Nat.card_Icc, length]
  split <;> omega

theorem is_empty_iff (span : Span) : span.isEmpty = true ↔ span.offsets = ∅ := by
  rw [isEmpty, decide_eq_true_eq, length_counts, Finset.card_eq_zero]

def held (start length : Nat) : Nat := if start = 0 ∧ length = 0 then 1 else length

-- The last offset is one before the first that is not meant. Zero has none before it, and here the cases part.
theorem of_length_offsets (start length : Nat) :
    (ofLength start length).offsets = Finset.Ico start (start + held start length) := by
  ext offset
  simp only [offsets, ofLength, Finset.mem_Icc, Finset.mem_Ico]
  by_cases nowhere : start = 0 ∧ length = 0
  · rw [held, if_pos nowhere]
    omega
  · rw [held, if_neg nowhere]
    omega

theorem of_length_exact (start length : Nat) :
    let span := ofLength start length
    (∀ offset : Nat, span.contains offset = true ↔ start ≤ offset ∧ offset < start + held start length) ∧
      span.length = held start length ∧ (span.isEmpty = true ↔ held start length = 0) := by
  intro span
  have all : span.offsets = Finset.Ico start (start + held start length) := of_length_offsets start length
  refine ⟨fun offset => ?_, ?_, ?_⟩
  · rw [← mem_offsets, all, Finset.mem_Ico]
  · rw [length_counts, all, Nat.card_Ico, Nat.add_sub_cancel_left]
  · rw [is_empty_iff, all, Finset.Ico_eq_empty_iff]
    omega

-- That a stretch has the length it was built by does not hold of the empty one at offset zero.
theorem empty_at_zero_holds_one :
    0 + 0 < Nat.pow 2 64 ∧ ((ofLength 0 0).contains 0 = true ∧ ¬ (0 ≤ 0 ∧ 0 < 0 + 0)) ∧
      (ofLength 0 0).length ≠ 0 ∧ (ofLength 0 0).isEmpty = false := by
  decide

end Span

end JavaDiagnostics
