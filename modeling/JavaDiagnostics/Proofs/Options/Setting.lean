import JavaDiagnostics.Options.Setting
import JavaDiagnostics.Proofs.Irritant
import JavaDiagnostics.Proofs.Text.Blank
import JavaDiagnostics.Proofs.Text.Keyed
import JavaDiagnostics.Proofs.Text.Numeral
import Mathlib.Data.List.Forall2
import Mathlib.Data.List.Nodup

/-!
Only two kinds of values need a condition to be read back as they are written: language levels that were never
released, and annotation names with white space around them.
-/

set_option autoImplicit false

namespace JavaDiagnostics

namespace JavaLevel

def IsReleased (level : JavaLevel) : Prop := 1 ≤ level.major ∧ level.major ≤ latest

instance (level : JavaLevel) : Decidable level.IsReleased :=
  inferInstanceAs (Decidable (1 ≤ level.major ∧ level.major ≤ latest))

theorem usual_released : usual.IsReleased := by decide

theorem describe_chars (level : JavaLevel) :
    level.describe.toList =
      (if level.major ≤ lastDotted then ['1', '.'] else []) ++ Text.Numeral.decimalChars level.major := by
  unfold describe Text.Numeral.decimal
  split <;> simp

theorem digit_not_blank : ∀ d < 10, Text.isBlank (Text.Numeral.digitChar d) = false := by decide

theorem digit_no_dot : ∀ d < 10, Text.Numeral.digitChar d ≠ '.' := by decide

theorem describe_without_blanks (level : JavaLevel) :
    ∀ c ∈ level.describe.toList, Text.isBlank c = false := by
  intro c member
  rw [describe_chars] at member
  rcases List.mem_append.mp member with front | digits
  · split at front
    · simp only [List.mem_cons, List.not_mem_nil, or_false] at front
      rcases front with rfl | rfl <;> rfl
    · exact absurd front List.not_mem_nil
  · obtain ⟨d, small, rfl⟩ := Text.Numeral.decimal_digits level.major c digits
    exact digit_not_blank d small

theorem trim_describe (level : JavaLevel) : Text.trim level.describe = level.describe := by
  rw [← String.toList_inj, Text.toList_trim]
  exact Text.trim_chars_without_blanks _ (describe_without_blanks level)

theorem read_dotted (n : Nat) (early : n ≤ lastDotted) :
    readChars ('1' :: '.' :: Text.Numeral.decimalChars n) = if 1 ≤ n then some ⟨n⟩ else none := by
  have bounded : n < wordBound := lt_of_le_of_lt early (by decide)
  rw [readChars, Text.Numeral.read_decimal, if_pos bounded]
  simp only [early, and_true]

theorem read_plain (n : Nat) (late : lastDotted < n) :
    readChars (Text.Numeral.decimalChars n) = if n ≤ latest then some ⟨n⟩ else none := by
  have value := Text.Numeral.read_decimal wordBound n
  unfold readChars
  split
  next minor dotted =>
    obtain ⟨d, small, same⟩ := Text.Numeral.decimal_digits n '.' (by simp [dotted])
    exact absurd same.symm (digit_no_dot d small)
  next =>
    rw [value]
    by_cases known : n ≤ latest
    · have bounded : n < wordBound := lt_of_le_of_lt known (by decide)
      rw [if_pos bounded, if_pos known]
      exact if_pos ⟨late, known⟩
    · rw [if_neg known]
      split
      next number given =>
        obtain rfl := Option.some.inj (Option.ite_none_right_eq_some.mp given).2
        exact if_neg fun bounds => known bounds.2
      next => rfl

theorem read_describe (level : JavaLevel) :
    read level.describe = if level.IsReleased then some level else none := by
  rw [read, trim_describe, describe_chars]
  by_cases early : level.major ≤ lastDotted
  · have known : level.major ≤ latest := Nat.le_trans early (by decide)
    rw [if_pos early, List.cons_append, List.cons_append, List.nil_append, read_dotted level.major early]
    simp only [IsReleased, known, and_true]
  · have late : lastDotted < level.major := Nat.lt_of_not_le early
    have least : 1 ≤ level.major := Nat.lt_of_le_of_lt (Nat.zero_le _) late
    rw [if_neg early, List.nil_append, read_plain level.major late]
    simp only [IsReleased, least, true_and]

theorem read_chars_released (text : List Char) (level : JavaLevel) (found : readChars text = some level) :
    level.IsReleased := by
  unfold readChars at found
  split at found
  all_goals
    split at found
    · split at found
      next bounds =>
        cases found
        simp only [IsReleased, lastDotted, latest] at bounds ⊢
        omega
      next => cases found
    · cases found

theorem read_trim (text : String) : read (Text.trim text) = read text := by
  rw [read, Text.trim_twice, read]

end JavaLevel

theorem Level.read_name (level : Level) : Level.read (Text.trim level.name) = some level := by
  cases level <;> decide +kernel

theorem Visibility.read_name (visibility : Visibility) :
    Visibility.read (Text.trim visibility.name) = some visibility := by
  cases visibility <;> decide +kernel

theorem TagDescription.read_name (mode : TagDescription) :
    TagDescription.read (Text.trim mode.name) = some mode := by
  cases mode <;> decide +kernel

theorem Flag.read_describe (on : Bool) : Flag.read (Text.trim (Flag.describe on)) = some on := by
  cases on <;> decide +kernel

namespace Assignment

def setting : Assignment → Setting
  | level irritant _ => .level irritant
  | flag f _ => .flag f
  | threshold t _ => .threshold t
  | conformance c _ => .conformance c
  | tagDescription _ => .tagDescription
  | annotationName mark _ => .annotationName mark

def text : Assignment → String
  | level _ chosen => chosen.name
  | flag _ on => Flag.describe on
  | threshold _ visibility => visibility.name
  | conformance _ release => release.describe
  | tagDescription mode => mode.name
  | annotationName _ name => name

def IsLegible : Assignment → Prop
  | conformance _ release => release.IsReleased
  | annotationName _ name => Text.trim name = name
  | _ => True

theorem assign_text (assignment : Assignment) (legible : assignment.IsLegible) :
    assignment.setting.assign? (Text.trim assignment.text) = some assignment := by
  cases assignment with
  | level irritant chosen => simp only [setting, text, Setting.assign?, chosen.read_name, Option.map_some]
  | flag f on => simp only [setting, text, Setting.assign?, Flag.read_describe on, Option.map_some]
  | threshold t visibility =>
      simp only [setting, text, Setting.assign?, visibility.read_name, Option.map_some]
  | conformance c release =>
      have released : release.IsReleased := legible
      simp only [setting, text, Setting.assign?, JavaLevel.read_trim, release.read_describe, if_pos released,
        Option.map_some]
  | tagDescription mode => simp only [setting, text, Setting.assign?, mode.read_name, Option.map_some]
  | annotationName mark name =>
      have trimmed : Text.trim name = name := legible
      simp only [setting, text, Setting.assign?, trimmed]

theorem assigned_legible (setting : Setting) (value : String) (assignment : Assignment)
    (found : setting.assign? (Text.trim value) = some assignment) : assignment.IsLegible := by
  cases setting with
  | annotationName mark =>
      simp only [Setting.assign?, Option.some.injEq] at found
      rw [← found]
      exact Text.trim_twice value
  | conformance c =>
      simp only [Setting.assign?, Option.map_eq_some_iff] at found
      obtain ⟨release, read, rfl⟩ := found
      exact JavaLevel.read_chars_released _ release read
  | _ =>
      simp only [Setting.assign?, Option.map_eq_some_iff] at found
      obtain ⟨_, _, rfl⟩ := found
      trivial

end Assignment

namespace Setting

theorem mem_all (setting : Setting) : setting ∈ all := by
  cases setting with
  | level irritant => simp [all, Irritant.mem_all irritant]
  | flag f => cases f <;> simp [all, Flag.all]
  | threshold t => cases t <;> simp [all, Threshold.all]
  | conformance c => cases c <;> simp [all, Conformance.all]
  | tagDescription => simp [all]
  | annotationName mark => cases mark <;> simp [all, NullMark.all]

-- Keys are compared as lists of letters, which unification finds; computing them from the texts takes
-- far longer.
def Spelled (text : String) (letters : List Char) : Prop := text = String.ofList letters

theorem problem_key_spelled (option : String) (letters : List Char) (spelled : Spelled option letters) :
    Spelled (Irritant.problemKey option)
      ("org.eclipse.jdt.core.compiler.problem.".toList ++ letters) := by
  rw [Spelled, String.ofList_append, String.ofList_toList, ← spelled]
  rfl

def number (letters : List Char) : Nat := letters.foldl (fun sum c => sum * 128 + c.toNat) 0

theorem keys_spelled : ∃ spellings : List (List Char),
    List.Forall₂ (fun setting letters => Spelled (key setting) letters) all spellings ∧
      (spellings.map number).Nodup ∧
      spellings.all (fun letters => Text.trimChars letters == letters) = true := by
  simp only [all, Irritant.all, Flag.all, Threshold.all, Conformance.all, NullMark.all, List.map_cons,
    List.map_nil, List.cons_append, List.nil_append]
  apply Exists.intro
  apply And.intro
  · repeat' apply List.Forall₂.cons
    all_goals first
      | exact List.Forall₂.nil
      | exact problem_key_spelled _ _ rfl
      | exact rfl
  · apply And.intro <;> decide +kernel

theorem key_spelled (spellings : List (List Char))
    (spelled : List.Forall₂ (fun setting letters => Spelled (key setting) letters) all spellings)
    (setting : Setting) : ∃ letters ∈ spellings, Spelled setting.key letters := by
  obtain ⟨place, inside, rfl⟩ := List.getElem_of_mem setting.mem_all
  have covered : place < spellings.length := spelled.length_eq ▸ inside
  exact ⟨spellings[place], List.getElem_mem covered, (List.forall₂_iff_get.mp spelled).2 place inside covered⟩

theorem keys_distinct : (all.map key).Nodup := by
  obtain ⟨spellings, spelled, apart, _⟩ := keys_spelled
  have same : all.map key = spellings.map String.ofList := by
    rwa [← List.forall₂_eq_eq_eq, List.forall₂_map_left_iff, List.forall₂_map_right_iff]
  rw [same]
  exact (List.Nodup.of_map number apart).map fun _ _ equal => String.ofList_injective equal

theorem of_key_key (setting : Setting) : ofKey? setting.key = some setting :=
  Text.find_distinct key all keys_distinct setting setting.mem_all

theorem key_trimmed (setting : Setting) : Text.trim setting.key = setting.key := by
  obtain ⟨spellings, spelled, _, solid⟩ := keys_spelled
  obtain ⟨letters, member, written⟩ := key_spelled spellings spelled setting
  rw [written]
  exact Text.trim_of_list letters (beq_iff_eq.mp (List.all_eq_true.mp solid letters member))

end Setting

end JavaDiagnostics
