import JavaDiagnostics.Collection.Summary
import JavaDiagnostics.Proofs.Collection.Order

/-!
The codes that a summary names as the most common stand at the front of the one ranking of all codes by how
often they occur and, of those that occur equally often, by the codes themselves.
-/

set_option autoImplicit false

namespace JavaDiagnostics

namespace Summary

theorem mem_insert_code (code other : Code) (codes : List Code) :
    other ∈ insertCode code codes ↔ other = code ∨ other ∈ codes := by
  induction codes with
  | nil => simp [insertCode]
  | cons first rest ih =>
      rw [insertCode]
      by_cases before : code.bits < first.bits
      · simp [before]
      · by_cases same : code = first
        · simp [same]
        · rw [if_neg before, if_neg same, List.mem_cons, ih, List.mem_cons]
          exact or_left_comm

def Ascending (codes : List Code) : Prop := codes.Pairwise fun a b => a.bits < b.bits

theorem insert_code_ascending (code : Code) (codes : List Code) (ascending : Ascending codes) :
    Ascending (insertCode code codes) := by
  induction codes with
  | nil => exact List.pairwise_singleton _ _
  | cons first rest ih =>
      obtain ⟨above, later⟩ := List.pairwise_cons.mp ascending
      rw [insertCode]
      by_cases before : code.bits < first.bits
      · rw [if_pos before]
        refine List.pairwise_cons.mpr ⟨fun other member => ?_, ascending⟩
        rcases List.mem_cons.mp member with rfl | further
        · exact before
        · exact UInt32.lt_trans before (above other further)
      · rw [if_neg before]
        by_cases same : code = first
        · rw [if_pos same]
          exact ascending
        · rw [if_neg same]
          refine List.pairwise_cons.mpr ⟨fun other member => ?_, ih later⟩
          rcases (mem_insert_code code other rest).mp member with rfl | further
          · have apart : first.bits ≠ other.bits := fun equal => same (congrArg Code.mk equal).symm
            exact UInt32.lt_of_le_of_ne (UInt32.not_lt.mp before) apart
          · exact above other further

theorem codes_ascending (diagnostics : List Diagnostic) : Ascending (codes diagnostics) := by
  induction diagnostics with
  | nil => exact .nil
  | cons diagnostic rest ih => exact insert_code_ascending diagnostic.code (codes rest) ih

theorem mem_codes (code : Code) (diagnostics : List Diagnostic) :
    code ∈ codes diagnostics ↔ ∃ diagnostic ∈ diagnostics, diagnostic.code = code := by
  induction diagnostics with
  | nil => simp [codes]
  | cons diagnostic rest ih =>
      change code ∈ insertCode diagnostic.code (codes rest) ↔ _
      rw [mem_insert_code, ih, List.exists_mem_cons_iff, eq_comm]

def occurrences (diagnostics : List Diagnostic) (code : Code) : Nat := diagnostics.countP (·.code = code)

theorem occurrences_reordered {first second : List Diagnostic} (same : first.Perm second) :
    occurrences first = occurrences second :=
  funext fun _ => same.countP_eq _

def Outranks (diagnostics : List Diagnostic) (a b : Code) : Prop :=
  occurrences diagnostics b < occurrences diagnostics a ∨
    occurrences diagnostics a = occurrences diagnostics b ∧ a.bits < b.bits

instance (diagnostics : List Diagnostic) (a b : Code) : Decidable (Outranks diagnostics a b) :=
  inferInstanceAs (Decidable (_ ∨ _))

structure Ranking (diagnostics : List Diagnostic) (ranking : List Code) : Prop where
  occurring : ∀ code, code ∈ ranking ↔ ∃ diagnostic ∈ diagnostics, diagnostic.code = code
  ranked : ranking.Pairwise (Outranks diagnostics)

theorem outranks_asymm {diagnostics : List Diagnostic} {a b : Code} (first : Outranks diagnostics a b)
    (second : Outranks diagnostics b a) : False := by
  rcases first with more | ⟨level, lower⟩
  · rcases second with fewer | ⟨equal, _⟩ <;> omega
  · rcases second with fewer | ⟨_, higher⟩
    · omega
    · exact UInt32.lt_asymm lower higher

theorem Ranking.distinct {diagnostics : List Diagnostic} {ranking : List Code} (ranks : Ranking diagnostics ranking) :
    ranking.Nodup := by
  refine ranks.ranked.imp fun {a b} outranks (equal : a = b) => ?_
  subst equal
  exact outranks_asymm outranks outranks

theorem Ranking.unique {diagnostics : List Diagnostic} {first second : List Code}
    (ranks : Ranking diagnostics first) (other : Ranking diagnostics second) : first = second := by
  have same : first.Perm second := by
    rw [List.perm_ext_iff_of_nodup ranks.distinct other.distinct]
    exact fun code => (ranks.occurring code).trans (other.occurring code).symm
  exact same.eq_of_pairwise (fun _ _ _ _ a b => (outranks_asymm a b).elim) ranks.ranked other.ranked

theorem Ranking.reordered {first second : List Diagnostic} {ranking : List Code} (same : first.Perm second)
    (ranks : Ranking first ranking) : Ranking second ranking := by
  refine ⟨fun code => ?_, ?_⟩
  · simp only [← same.mem_iff, ranks.occurring code]
  · refine ranks.ranked.imp fun {a b} outranks => ?_
    rwa [Outranks, occurrences_reordered same] at outranks

def ranked (diagnostics : List Diagnostic) : List Code :=
  (codes diagnostics).mergeSort fun a b => occurrences diagnostics b ≤ occurrences diagnostics a

theorem ranked_ranking (diagnostics : List Diagnostic) : Ranking diagnostics (ranked diagnostics) := by
  refine ⟨fun code => ?_, ?_⟩
  · rw [ranked, List.mem_mergeSort, mem_codes]
  · refine (sorted_keeps ?_ ?_ (codes diagnostics) _ (codes_ascending diagnostics)).imp ?_
    · simp only [decide_eq_true_eq]
      exact fun a b c first second => second.trans first
    · simp only [Bool.or_eq_true, decide_eq_true_eq]
      exact fun a b => le_total _ _
    simp only [decide_eq_true_eq]
    rintro a b ⟨often, lower⟩
    by_cases level : occurrences diagnostics a = occurrences diagnostics b
    · exact .inr ⟨level, lower level.le⟩
    · exact .inl (by omega)

theorem most_common_ranked (diagnostics : List Diagnostic) :
    mostCommon diagnostics =
      ((ranked diagnostics).take 5).map fun code => (code, occurrences diagnostics code) := by
  have pairs : (ranked diagnostics).map (fun code => (code, occurrences diagnostics code)) =
      (codeCounts diagnostics).mergeSort fun a b => b.2 ≤ a.2 := List.map_mergeSort fun _ _ _ _ => rfl
  rw [List.map_take, pairs]
  rfl

theorem most_common_reordered {first second : List Diagnostic} (same : first.Perm second) :
    mostCommon first = mostCommon second := by
  rw [most_common_ranked, most_common_ranked, occurrences_reordered same,
    ((ranked_ranking first).reordered same).unique (ranked_ranking second)]

theorem category_counts_reordered {first second : List Diagnostic} (same : first.Perm second) :
    categoryCounts first = categoryCounts second := by
  unfold categoryCounts
  simp only [same.countP_eq]

theorem summary_reordered (first second : Collection) (same : first.kept.Perm second.kept)
    (dropped : first.dropped = second.dropped) : ofCollection first = ofCollection second := by
  unfold ofCollection
  rw [same.length_eq, most_common_reordered same, category_counts_reordered same, dropped]
  simp only [same.countP_eq]

theorem summary_free_of_order :
    (∀ first second : Collection, first.kept.Perm second.kept → first.dropped = second.dropped →
      ofCollection first = ofCollection second) ∧
    ∀ collection : Collection,
      ofCollection collection.sort = ofCollection collection ∧
      (∃ ranking, Ranking collection.kept ranking ∧
        (∀ other, Ranking collection.kept other → other = ranking) ∧
        (ofCollection collection).common =
          (ranking.take (min 5 ranking.length)).map fun code => (code, occurrences collection.kept code)) ∧
      collection.sort.kept.Perm collection.kept ∧
      (collection.sort.kept.Pairwise fun a b => a.place ≤ b.place) ∧
      (∀ place, collection.sort.kept.filter (·.place = place) = collection.kept.filter (·.place = place)) ∧
      collection.sort.sort = collection.sort := by
  refine ⟨summary_reordered, fun collection => ?_⟩
  have same : collection.sort.kept.Perm collection.kept := List.mergeSort_perm collection.kept _
  have ranks := ranked_ranking collection.kept
  refine ⟨summary_reordered _ _ same rfl, ⟨ranked collection.kept, ranks, fun _ other => other.unique ranks, ?_⟩, same,
    collection.sort_ordered, collection.sort_stable, collection.sort_twice⟩
  rw [← List.take_eq_take_min]
  exact most_common_ranked collection.kept

-- Of six codes four occur once and have the last places that a summary has; they ascend.
theorem reversed_summary :
    let problem (code : Code) (start : Nat) : Diagnostic :=
      ⟨code, .warning, .unnecessaryCode, [], [], "", ⟨start, start⟩, ⟨1, start + 1⟩, some "A.java", false⟩
    let kept := [problem .unusedImport 0, problem .unusedLocal 1, problem .unusedArgument 2, problem .rawType 3,
      problem .deprecatedType 4, problem .unusedImport 5, problem .task 6]
    let first : Collection := ⟨100, kept, [("A.java", 7)], 2⟩
    let second : Collection := { first with kept := kept.reverse }
    first.kept.Perm second.kept ∧ first.dropped = second.dropped ∧ ofCollection first = ofCollection second ∧
      (ofCollection second).common =
        [(.unusedImport, 2), (.deprecatedType, 1), (.rawType, 1), (.unusedLocal, 1), (.unusedArgument, 1)] := by
  intro problem kept first second
  have same : first.kept.Perm second.kept := (List.reverse_perm kept).symm
  let ranking : List Code := [.unusedImport, .deprecatedType, .rawType, .unusedLocal, .unusedArgument, .task]
  have ranks : Ranking second.kept ranking := by
    have occurring : ranking.Perm (codes second.kept) := by decide
    exact ⟨fun code => occurring.mem_iff.trans (mem_codes code second.kept), by decide⟩
  obtain ⟨-, ⟨other, -, unique, common⟩, -⟩ := summary_free_of_order.2 second
  rw [← unique _ ranks] at common
  exact ⟨same, rfl, summary_free_of_order.1 first second same rfl, common⟩

end Summary

end JavaDiagnostics
