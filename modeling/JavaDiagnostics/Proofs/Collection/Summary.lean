import JavaDiagnostics.Collection.Summary
import JavaDiagnostics.Proofs.Classification

set_option autoImplicit false

namespace JavaDiagnostics

namespace Diagnostic

structure IsClear (diagnostic : Diagnostic) : Prop where
  loud : diagnostic.severity.isIgnored = false
  unmixed : diagnostic.severity.isMixed = false
  marked : diagnostic.mandatory = diagnostic.severity.isMandatory

theorem IsClear.warning {diagnostic : Diagnostic} (clear : diagnostic.IsClear) :
    diagnostic.isWarning = Summary.isRest diagnostic := by
  have loud := clear.loud
  simp [isWarning, Summary.isRest, isError, isInfo, Severity.is_warning_eq, loud]

theorem IsClear.info {diagnostic : Diagnostic} (clear : diagnostic.IsClear) :
    diagnostic.isInfo = Summary.isPlainInfo diagnostic := by
  have unmixed := clear.unmixed
  unfold Severity.isMixed at unmixed
  unfold Summary.isPlainInfo isError isInfo
  cases error : diagnostic.severity.isError with
  | false => rfl
  | true =>
      rw [error] at unmixed
      exact unmixed

end Diagnostic

theorem Category.mem_all (category : Category) : category ∈ Category.all := by
  cases category <;> decide

namespace Summary

theorem level_counts (diagnostics : List Diagnostic) :
    diagnostics.length =
      diagnostics.countP (·.isError) + diagnostics.countP isRest + diagnostics.countP isPlainInfo := by
  induction diagnostics with
  | nil => rfl
  | cons diagnostic rest ih =>
      simp only [List.length_cons, List.countP_cons, ih]
      unfold isRest isPlainInfo
      cases diagnostic.isError <;> cases diagnostic.isInfo <;> simp <;> omega

theorem count_as_list (diagnostics : List Diagnostic) (counted listed : Diagnostic → Bool)
    (same : ∀ diagnostic ∈ diagnostics, listed diagnostic = counted diagnostic) :
    diagnostics.countP counted = (diagnostics.filter listed).length := by
  rw [← List.countP_eq_length_filter]
  exact List.countP_congr fun diagnostic member => by rw [same diagnostic member]

theorem count_category (category : Category) (others : List Category) (absent : category ∉ others)
    (diagnostics : List Diagnostic) :
    diagnostics.countP (·.category ∈ category :: others) =
      diagnostics.countP (·.category = category) + diagnostics.countP (·.category ∈ others) := by
  induction diagnostics with
  | nil => rfl
  | cons diagnostic rest ih =>
      simp only [List.countP_cons, ih]
      by_cases same : diagnostic.category = category
      · simp [same, absent]
        omega
      · simp [same]
        omega

def countTotal : List (Category × Nat) → Nat
  | [] => 0
  | (_, count) :: rest => count + countTotal rest

theorem category_total (categories : List Category) (diagnostics : List Diagnostic)
    (distinct : categories.Nodup) :
    countTotal (categories.map fun category => (category, diagnostics.countP (·.category = category))) =
      diagnostics.countP (·.category ∈ categories) := by
  induction categories with
  | nil => simp [countTotal]
  | cons category others ih =>
      obtain ⟨absent, apart⟩ := List.nodup_cons.mp distinct
      rw [List.map_cons, countTotal, ih apart, count_category category others absent]

theorem total_present (counts : List (Category × Nat)) :
    countTotal (counts.filter (·.2 > 0)) = countTotal counts := by
  induction counts with
  | nil => rfl
  | cons entry rest ih =>
      by_cases present : entry.2 > 0
      · simp [countTotal, present, ih]
      · have none : entry.2 = 0 := by omega
        simp [countTotal, none, ih]

theorem category_counts_total (diagnostics : List Diagnostic) :
    countTotal (categoryCounts diagnostics) = diagnostics.length := by
  have everyone : diagnostics.countP (·.category ∈ Category.all) = diagnostics.length :=
    List.countP_eq_length.mpr fun diagnostic _ => decide_eq_true (Category.mem_all diagnostic.category)
  rw [← everyone, ← category_total Category.all diagnostics (by decide)]
  exact total_present _

theorem group_counts (categories : List Category) (diagnostics : List Diagnostic) :
    ((categories.filterMap fun category =>
        match diagnostics.filter (·.category = category) with
        | [] => none
        | members => some (category, members)).map fun group => (group.1, group.2.length)) =
      (categories.map fun category => (category, diagnostics.countP (·.category = category))).filter (·.2 > 0) := by
  induction categories with
  | nil => rfl
  | cons category others ih =>
      rw [List.filterMap_cons, List.map_cons, List.filter_cons, List.countP_eq_length_filter]
      cases diagnostics.filter (·.category = category) with
      | nil => simpa using ih
      | cons first more => simpa using ih

theorem groups_counted (collection : Collection) :
    (ofCollection collection).byCategory = collection.groups.map fun group => (group.1, group.2.length) :=
  (group_counts Category.all collection.kept).symm

end Summary

end JavaDiagnostics
