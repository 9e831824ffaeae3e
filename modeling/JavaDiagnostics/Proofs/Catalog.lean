import JavaDiagnostics.Catalog
import JavaDiagnostics.Proofs.Text.Keyed
import Mathlib.Data.List.Forall2

set_option autoImplicit false

namespace JavaDiagnostics

namespace Catalog

-- The remainder of the letters as one number. No two names of the catalog have the same.
def fingerprint (letters : List Char) : Nat := letters.foldl (fun sum c => sum * 128 + c.toNat) 0 % 15349

def isCapital (letters : List Char) : Bool := letters.head?.any Char.isUpper

-- The letters of all names are found by unification: computing them from the texts takes far longer.
theorem names_spelled : ∃ spellings : List (List Char),
    entries.map (·.name) = spellings.map String.ofList ∧
      spellings.all isCapital = true ∧ Text.setsFresh 0 (spellings.map fingerprint) = true := by
  unfold entries
  apply Exists.intro
  apply And.intro
  · rw [← List.forall₂_eq_eq_eq, List.forall₂_map_left_iff, List.forall₂_map_right_iff]
    repeat' apply List.rel_append
    all_goals
      repeat' apply List.Forall₂.cons
    all_goals first
      | exact List.Forall₂.nil
      | exact rfl
  · apply And.intro <;> decide +kernel

theorem names_distinct : (entries.map (·.name)).Nodup := by
  obtain ⟨spellings, spelled, _, fresh⟩ := names_spelled
  exact Text.spelled_distinct _ spellings fingerprint spelled fresh

theorem name_capital (entry : Entry) (listed : entry ∈ entries) : isCapital entry.name.toList = true := by
  obtain ⟨spellings, spelled, capital, _⟩ := names_spelled
  have named : entry.name ∈ spellings.map String.ofList := spelled ▸ List.mem_map_of_mem listed
  obtain ⟨letters, member, written⟩ := List.mem_map.mp named
  rw [← written, String.toList_ofList]
  exact List.all_eq_true.mp capital letters member

end Catalog

namespace Code

theorem of_name_listed (entry : Entry) (listed : entry ∈ Catalog.entries) :
    ofName? entry.name = some entry.code := by
  have found : Catalog.byName? entry.name = some entry :=
    Text.find_distinct Entry.name Catalog.entries Catalog.names_distinct entry listed
  rw [ofName?, found, Option.map_some]

theorem of_name_small (text : String) (small : Catalog.isCapital text.toList = false) : ofName? text = none := by
  have missed : Catalog.byName? text = none := by
    refine List.find?_eq_none.mpr fun entry listed same => ?_
    have capital := Catalog.name_capital entry listed
    rw [beq_iff_eq.mp same, small] at capital
    cases capital
  rw [ofName?, missed, Option.map_none]

theorem of_name_label (entry : Entry) (listed : entry ∈ Catalog.entries) :
    ofName? entry.code.label = some entry.code := by
  cases found : entry.code.entry? with
  | none =>
      have missed := List.find?_eq_none.mp found entry listed
      exact absurd (decide_eq_true rfl) missed
  | some own =>
      have search : Catalog.entries.find? (fun other => other.code = entry.code) = some own := found
      have same : own.code = entry.code := by simpa using List.find?_some search
      have label : entry.code.label = own.name := by simp [label, name?, found]
      rw [label, of_name_listed own (List.mem_of_find?_eq_some search), same]

end Code

end JavaDiagnostics
