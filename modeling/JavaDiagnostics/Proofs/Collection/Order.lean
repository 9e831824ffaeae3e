import JavaDiagnostics.Collection
import Mathlib.Data.Prod.Lex
import Mathlib.Data.String.Basic
import Mathlib.Order.WithBot

set_option autoImplicit false

namespace JavaDiagnostics

section

variable {α : Type} {le : α → α → Bool}

theorem sorted_class (trans : ∀ a b c, le a b = true → le b c = true → le a c = true)
    (total : ∀ a b, (le a b || le b a) = true) (members : List α) (property : α → Bool)
    (alike : ∀ a b, property a = true → property b = true → le a b = true) :
    (members.mergeSort le).filter property = members.filter property := by
  have level : (members.filter property).Pairwise fun a b => le a b = true :=
    List.pairwise_of_forall_mem_list fun a first b second =>
      alike a b (List.mem_filter.mp first).2 (List.mem_filter.mp second).2
  have within := (List.sublist_mergeSort trans total level List.filter_sublist).filter property
  rw [List.filter_filter] at within
  have count := ((List.mergeSort_perm members le).filter property).length_eq
  simp only [Bool.and_self] at within
  exact (within.eq_of_length count.symm).symm

theorem sorted_keeps (trans : ∀ a b c, le a b = true → le b c = true → le a c = true)
    (total : ∀ a b, (le a b || le b a) = true) (members : List α) (before : α → α → Prop)
    (ordered : members.Pairwise before) :
    (members.mergeSort le).Pairwise fun a b => le a b = true ∧ (le b a = true → before a b) := by
  have sorted := List.pairwise_mergeSort trans total members
  rw [List.pairwise_iff_forall_sublist] at ordered sorted ⊢
  intro a b within
  refine ⟨sorted within, fun back => ordered ?_⟩
  let level (c : α) : Bool := le a c && le c a
  have self : le a a = true := trans a b a (sorted within) back
  have pair := within.filter level
  rw [sorted_class trans total members level fun c d first second => ?_] at pair
  · simpa [level, self, sorted within, back] using pair.trans List.filter_sublist
  · simp only [level, Bool.and_eq_true] at first second
    exact trans c a d first.2 second.1

end

def Diagnostic.place (diagnostic : Diagnostic) : WithBot String ×ₗ Nat ×ₗ Nat :=
  toLex (diagnostic.file.elim ⊥ WithBot.some, toLex (diagnostic.span.start, diagnostic.span.stop))

namespace Collection

theorem precedes_iff (a b : Diagnostic) : precedes a b = true ↔ a.place ≤ b.place := by
  unfold precedes Diagnostic.place
  rw [Prod.Lex.toLex_le_toLex, Prod.Lex.toLex_le_toLex]
  cases a.file <;> cases b.file <;> simp

theorem precedes_trans (a b c : Diagnostic) (first : precedes a b = true) (second : precedes b c = true) :
    precedes a c = true := by
  rw [precedes_iff] at *
  exact first.trans second

theorem precedes_total (a b : Diagnostic) : (precedes a b || precedes b a) = true := by
  rw [Bool.or_eq_true, precedes_iff, precedes_iff]
  exact le_total a.place b.place

theorem sort_ordered (collection : Collection) :
    collection.sort.kept.Pairwise fun a b => a.place ≤ b.place :=
  (List.pairwise_mergeSort precedes_trans precedes_total collection.kept).imp fun {a b} => (precedes_iff a b).mp

theorem sort_stable (collection : Collection) (place : WithBot String ×ₗ Nat ×ₗ Nat) :
    collection.sort.kept.filter (·.place = place) = collection.kept.filter (·.place = place) := by
  apply sorted_class precedes_trans precedes_total
  intro a b first second
  rw [decide_eq_true_eq] at first second
  rw [precedes_iff, first, second]

theorem sort_twice (collection : Collection) : collection.sort.sort = collection.sort := by
  have sorted := List.pairwise_mergeSort precedes_trans precedes_total collection.kept
  rw [sort, sort, List.mergeSort_of_pairwise sorted]

end Collection

end JavaDiagnostics
