import JavaDiagnostics.Proofs.Options.Setting

set_option autoImplicit false

namespace JavaDiagnostics

namespace JavaLevel

def spelling (level : JavaLevel) (signed : Bool) (zeros : Nat) : List Char :=
  (if level.major ≤ lastDotted then ['1', '.'] else []) ++ Text.Numeral.padded signed zeros level.major

theorem level_within (number : Option Nat) (within : Nat → Prop) [DecidablePred within] (level : JavaLevel) :
    (match number with
      | some n => if within n then some (JavaLevel.mk n) else none
      | none => none) = some level ↔ number = some level.major ∧ within level.major := by
  obtain ⟨major⟩ := level
  cases number with
  | none => simp
  | some n =>
      simp only [Option.ite_none_right_eq_some, Option.some.injEq, mk.injEq]
      constructor
      · rintro ⟨bounds, rfl⟩
        exact ⟨rfl, bounds⟩
      · rintro ⟨rfl, bounds⟩
        exact ⟨bounds, rfl⟩

theorem read_chars_dotted (minor : List Char) (level : JavaLevel) :
    readChars ('1' :: '.' :: minor) = some level ↔
      Text.Numeral.read 10 wordBound minor = some level.major ∧ 1 ≤ level.major ∧ level.major ≤ lastDotted :=
  level_within (Text.Numeral.read 10 wordBound minor) (fun n => 1 ≤ n ∧ n ≤ lastDotted) level

theorem read_chars_plain (text : List Char) (level : JavaLevel) (plain : ∀ minor, text ≠ '1' :: '.' :: minor) :
    readChars text = some level ↔
      Text.Numeral.read 10 wordBound text = some level.major ∧ lastDotted < level.major ∧ level.major ≤ latest := by
  unfold readChars
  split
  next minor => exact absurd rfl (plain minor)
  next => exact level_within _ (fun n => lastDotted < n ∧ n ≤ latest) level

theorem padded_plain (signed : Bool) (zeros n : Nat) (minor : List Char) :
    Text.Numeral.padded signed zeros n ≠ '1' :: '.' :: minor := by
  intro dotted
  rcases Text.Numeral.padded_chars signed zeros n '.' (by simp [dotted]) with sign | ⟨d, small, same⟩
  · cases sign
  · exact digit_no_dot d small same.symm

theorem read_chars_iff (text : List Char) (level : JavaLevel) :
    readChars text = some level ↔
      level.IsReleased ∧ ∃ (signed : Bool) (zeros : Nat), text = level.spelling signed zeros := by
  constructor
  · intro found
    have released := read_chars_released text level found
    refine ⟨released, ?_⟩
    by_cases dotted : ∃ minor, text = '1' :: '.' :: minor
    · obtain ⟨minor, rfl⟩ := dotted
      obtain ⟨value, _, early⟩ := (read_chars_dotted minor level).mp found
      obtain ⟨_, signed, zeros, rfl⟩ := (Text.Numeral.read_padded _ _ minor).mp value
      exact ⟨signed, zeros, by rw [spelling, if_pos early]; rfl⟩
    · obtain ⟨value, late, _⟩ := (read_chars_plain text level fun minor same => dotted ⟨minor, same⟩).mp found
      obtain ⟨_, signed, zeros, rfl⟩ := (Text.Numeral.read_padded _ _ text).mp value
      exact ⟨signed, zeros, by rw [spelling, if_neg (Nat.not_le.mpr late)]; rfl⟩
  · rintro ⟨⟨least, most⟩, signed, zeros, rfl⟩
    have bounded : level.major < wordBound := Nat.lt_of_le_of_lt most (by decide)
    have value : Text.Numeral.read 10 wordBound (Text.Numeral.padded signed zeros level.major) = some level.major :=
      (Text.Numeral.read_padded _ _ _).mpr ⟨bounded, signed, zeros, rfl⟩
    by_cases early : level.major ≤ lastDotted
    · rw [spelling, if_pos early]
      exact (read_chars_dotted _ level).mpr ⟨value, least, early⟩
    · rw [spelling, if_neg early, List.nil_append]
      exact (read_chars_plain _ level (padded_plain signed zeros _)).mpr ⟨value, Nat.not_le.mp early, most⟩

theorem read_spellings (text : String) (level : JavaLevel) :
    level.describe = String.ofList (level.spelling false 0) ∧
      (read text = some level ↔ (1 ≤ level.major ∧ level.major ≤ latest) ∧
        ∃ (signed : Bool) (zeros : Nat), Text.trim text = String.ofList (level.spelling signed zeros)) := by
  constructor
  · rw [← String.toList_inj, describe_chars, String.toList_ofList]
    rfl
  · simp only [← String.toList_inj, String.toList_ofList]
    exact read_chars_iff (Text.trim text).toList level

-- That a level is read only as it is written does not hold.
theorem padded_levels_read :
    (read "+9" = some ⟨9⟩ ∧ Text.trim "+9" ≠ describe ⟨9⟩) ∧
      read "1.08" = some ⟨8⟩ ∧ Text.trim "1.08" ≠ describe ⟨8⟩ := by
  decide +kernel

end JavaLevel

end JavaDiagnostics
