import JavaDiagnostics.Proofs.Options.Saving

/-!
Whether a setting is refused, and what it sets, is decided by its key and its value before anything is set, and
so the same for all options.
-/

set_option autoImplicit false

namespace JavaDiagnostics

theorem Assignment.assigned_setting (setting : Setting) (text : String) (assignment : Assignment)
    (found : setting.assign? text = some assignment) : assignment.setting = setting := by
  cases setting with
  | annotationName mark =>
      simp only [Setting.assign?, Option.some.injEq] at found
      rw [← found]
      rfl
  | _ =>
      simp only [Setting.assign?, Option.map_eq_some_iff] at found
      obtain ⟨_, _, rfl⟩ := found
      rfl

namespace Options

def reading (key value : String) : Except SettingsError (Option Assignment) :=
  match Setting.ofKey? (Text.trim key) with
  | none => .ok none
  | some setting =>
      match setting.assign? (Text.trim value) with
      | some assignment => .ok (some assignment)
      | none => .error (setting.refusal (Text.trim value))

def given (options : Options) (assignment? : Option Assignment) : Options :=
  assignment?.elim options options.assign

theorem apply_reading (options : Options) (key value : String) :
    options.apply key value = (reading key value).map options.given := by
  unfold apply reading
  cases Setting.ofKey? (Text.trim key) with
  | none => rfl
  | some setting => cases assigned : setting.assign? (Text.trim value) <;> simp only [assigned] <;> rfl

theorem of_key_some (key : String) (setting : Setting) (named : Setting.ofKey? key = some setting) :
    setting.key = key := by
  have search : Setting.all.find? (fun known => known.key == key) = some setting := named
  have equal : (setting.key == key) = true := by simpa using List.find?_some search
  exact beq_iff_eq.mp equal

theorem reading_none (key value : String) (read : reading key value = .ok none) :
    Setting.ofKey? (Text.trim key) = none := by
  unfold reading at read
  split at read
  next unknown => exact unknown
  next => split at read <;> cases read

theorem reading_some (key value : String) (assignment : Assignment)
    (read : reading key value = .ok (some assignment)) :
    Setting.ofKey? (Text.trim key) = some assignment.setting ∧ assignment.IsLegible := by
  unfold reading at read
  split at read
  next => cases read
  next setting known =>
    split at read
    next found assigned =>
      cases read
      rw [Assignment.assigned_setting setting _ assignment assigned]
      exact ⟨known, Assignment.assigned_legible setting value assignment assigned⟩
    next => cases read

theorem reading_text (key value : String) (assignment : Assignment)
    (read : reading key value = .ok (some assignment)) : reading key assignment.text = .ok (some assignment) := by
  obtain ⟨known, legible⟩ := reading_some key value assignment read
  unfold reading
  rw [known]
  dsimp only
  rw [Assignment.assign_text assignment legible]

theorem settings_lookup (options : Options) (key : String) :
    options.toSettings.lookup key = (Setting.ofKey? key).map options.value := by
  unfold toSettings Setting.ofKey?
  induction Setting.all with
  | nil => rfl
  | cons setting rest ih =>
      rw [List.map_cons, List.lookup_cons, List.find?_cons, BEq.comm]
      cases setting.key == key with
      | true => rfl
      | false => exact ih

theorem value_assign (options : Options) (assignment : Assignment) (setting : Setting) :
    (options.assign assignment).value setting =
      if setting = assignment.setting then assignment.text else options.value setting := by
  rw [← current_text, current_assign]
  split
  · rfl
  · exact options.current_text setting

theorem assign_twice (options : Options) (assignment : Assignment) :
    (options.assign assignment).assign assignment = options.assign assignment := by
  refine stored_ext _ _ fun setting => ?_
  rw [stored_assign, stored_assign]
  split <;> rfl

theorem applied_given (options next : Options) (key value : String)
    (applied : options.apply key value = .ok next) :
    ∃ assignment?, reading key value = .ok assignment? ∧ options.given assignment? = next := by
  rw [apply_reading] at applied
  cases read : reading key value with
  | error cause =>
      rw [read] at applied
      cases applied
  | ok assignment? =>
      rw [read] at applied
      exact ⟨assignment?, rfl, Except.ok.inj applied⟩

theorem given_applied (options : Options) (key value : String) (assignment? : Option Assignment)
    (read : reading key value = .ok assignment?) :
    options.apply key value = .ok (options.given assignment?) := by
  rw [apply_reading, read]
  rfl

theorem given_other (options : Options) (key value other : String) (assignment? : Option Assignment)
    (read : reading key value = .ok assignment?) (apart : other ≠ Text.trim key) :
    (options.given assignment?).toSettings.lookup other = options.toSettings.lookup other := by
  cases assignment? with
  | none => rfl
  | some assignment =>
      have named := of_key_some _ _ (reading_some key value assignment read).1
      rw [settings_lookup, settings_lookup]
      cases known : Setting.ofKey? other with
      | none => rfl
      | some setting =>
          have different : setting ≠ assignment.setting := by
            rintro rfl
            exact apart ((of_key_some other _ known).symm.trans named)
          simp only [Option.map_some, given, Option.elim_some, value_assign, if_neg different]

theorem given_own (options : Options) (key value : String) (assignment : Assignment)
    (read : reading key value = .ok (some assignment)) :
    (options.given (some assignment)).toSettings.lookup (Text.trim key) = some assignment.text := by
  rw [settings_lookup, (reading_some key value assignment read).1]
  simp only [Option.map_some, given, Option.elim_some, value_assign, if_true]

theorem refused_change (options : Options) (key value : String) (cause : SettingsError)
    (refused : options.apply key value = .error cause) : options.change (.apply key value) = options := by
  simp only [change, refused]

theorem applied_change (options next : Options) (key value : String)
    (applied : options.apply key value = .ok next) : options.change (.apply key value) = next := by
  simp only [change, applied]

theorem reached_append (preset : Preset) (changes later : List Change) :
    reached preset (changes ++ later) = later.foldl change (reached preset changes) :=
  List.foldl_append

theorem apply_shows_under_key (preset : Preset) (changes : List Change) (key value : String) :
    let options := reached preset changes
    (∀ cause, options.apply key value = .error cause → ∀ later : List Change,
      reached preset (changes ++ .apply key value :: later) = reached preset (changes ++ later)) ∧
    ∀ next, options.apply key value = .ok next →
      reached preset (changes ++ [.apply key value]) = next ∧
      (∀ other, other ≠ Text.trim key → next.toSettings.lookup other = options.toSettings.lookup other) ∧
      (options.toSettings.lookup (Text.trim key) = none → next = options) ∧
      ∀ before, options.toSettings.lookup (Text.trim key) = some before →
        ∃ entry, next.toSettings.lookup (Text.trim key) = some entry ∧
          next.apply key entry = .ok next ∧
          ∀ (elsewhere : Preset) (history : List Change), ∃ there,
            (reached elsewhere history).apply key value = .ok there ∧
              there.toSettings.lookup (Text.trim key) = some entry := by
  intro options
  constructor
  · intro cause refused later
    rw [reached_append, reached_append, List.foldl_cons, refused_change _ key value cause refused]
  · intro next applied
    obtain ⟨assignment?, read, rfl⟩ := applied_given options next key value applied
    refine ⟨?_, fun other apart => given_other options key value other assignment? read apart, ?_, ?_⟩
    · rw [reached_append, List.foldl_cons, List.foldl_nil, applied_change _ _ key value applied]
    · intro unknown
      cases assignment? with
      | none => rfl
      | some assignment =>
          rw [settings_lookup, (reading_some key value assignment read).1] at unknown
          cases unknown
    · intro before known
      cases assignment? with
      | none =>
          rw [settings_lookup, reading_none key value read] at known
          cases known
      | some assignment =>
          refine ⟨assignment.text, given_own options key value assignment read, ?_, fun elsewhere history => ?_⟩
          · rw [given_applied _ key _ _ (reading_text key value assignment read)]
            exact congrArg Except.ok (options.assign_twice assignment)
          · exact ⟨_, given_applied _ key value _ read, given_own _ key value assignment read⟩

-- A level spelled at length is written in its plain form. One behind `1.` that was never released is
-- refused, and what comes later is as without it.
theorem spelled_level_shows :
    let key := " org.eclipse.jdt.core.compiler.source"
    let options := reached .strict [.docComments true]
    (∃ next, options.apply key "+011 " = .ok next ∧ next.toSettings.lookup (Text.trim key) = some "11" ∧
      next.apply key "11" = .ok next) ∧
    (∃ cause, options.apply key "1.9" = .error cause) ∧
    reached .strict [.docComments true, .apply key "1.9", .nullAnalysis true] =
      reached .strict [.docComments true, .nullAnalysis true] := by
  intro key options
  have own : Text.trim key = (Setting.conformance .source).key := by decide +kernel
  have known : Setting.ofKey? (Text.trim key) = some (.conformance .source) := by rw [own, Setting.of_key_key]
  have late : JavaLevel.read (Text.trim "+011 ") = some ⟨11⟩ := by decide +kernel
  have unreleased : JavaLevel.read (Text.trim "1.9") = none := by decide +kernel
  have read : reading key "+011 " = .ok (some (.conformance .source ⟨11⟩)) := by
    simp only [reading, known, Setting.assign?, late, Option.map_some]
  have applied := given_applied options key "+011 " _ read
  have refused : ∃ cause, options.apply key "1.9" = .error cause := by
    simp only [apply_reading, reading, known, Setting.assign?, unreleased, Option.map_none]
    exact ⟨_, rfl⟩
  have before : options.toSettings.lookup (Text.trim key) = some (options.value (.conformance .source)) := by
    rw [settings_lookup, known, Option.map_some]
  obtain ⟨entry, shown, again, _⟩ :=
    ((apply_shows_under_key .strict [.docComments true] key "+011 ").2 _ applied).2.2.2 _ before
  have written : entry = "11" := by
    rw [given_own options key "+011 " _ read] at shown
    exact (Option.some.inj shown).symm.trans (by decide +kernel)
  rw [written] at shown again
  refine ⟨⟨_, applied, shown, again⟩, refused, ?_⟩
  obtain ⟨cause, refused⟩ := refused
  exact (apply_shows_under_key .strict [.docComments true] key "1.9").1 cause refused [.nullAnalysis true]

end Options

end JavaDiagnostics
