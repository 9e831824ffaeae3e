import JavaDiagnostics.Options
import JavaDiagnostics.Proofs.Options.Setting
import Mathlib.Data.List.Perm.Basic

/-!
Options saved as settings and loaded again. What is loaded are the options with every level set, also
those that held by default, however the settings are ordered. Of the options that presets and changes lead
to, those are refused that have a source level which was never released.
-/

set_option autoImplicit false

namespace JavaDiagnostics.Options

-- What a setting was set to. A level that holds by default was not set.
def stored (options : Options) : Setting → Option Assignment
  | .level irritant => (options.chosen irritant).map (.level irritant)
  | .flag f => some (.flag f (options.flag f))
  | .threshold t => some (.threshold t (options.threshold t))
  | .conformance c => some (.conformance c (options.conformance c))
  | .tagDescription => some (.tagDescription options.tagDescription)
  | .annotationName mark => some (.annotationName mark (options.annotationName mark))

def current (options : Options) : Setting → Assignment
  | .level irritant => .level irritant (options.level irritant)
  | .flag f => .flag f (options.flag f)
  | .threshold t => .threshold t (options.threshold t)
  | .conformance c => .conformance c (options.conformance c)
  | .tagDescription => .tagDescription options.tagDescription
  | .annotationName mark => .annotationName mark (options.annotationName mark)

def settled (options : Options) : Options :=
  { options with chosen := fun irritant => some (options.level irritant) }

theorem current_setting (options : Options) (setting : Setting) :
    (options.current setting).setting = setting := by
  cases setting <;> rfl

theorem current_text (options : Options) (setting : Setting) :
    (options.current setting).text = options.value setting := by
  cases setting <;> rfl

theorem settled_stored (options : Options) (setting : Setting) :
    options.settled.stored setting = some (options.current setting) := by
  cases setting <;> rfl

theorem settled_value (options : Options) (setting : Setting) :
    options.settled.value setting = options.value setting := by
  cases setting <;> rfl

theorem settled_settings (options : Options) : options.settled.toSettings = options.toSettings := by
  unfold toSettings
  simp only [settled_value]

theorem current_stored (options : Options) (setting : Setting) :
    options.current setting = (options.stored setting).getD (usual.current setting) := by
  cases setting with
  | level irritant =>
      simp only [current, stored, level, usual]
      cases options.chosen irritant <;> rfl
  | _ => rfl

theorem stored_ext (first second : Options)
    (same : ∀ setting, first.stored setting = second.stored setting) : first = second := by
  have chosen : first.chosen = second.chosen := by
    funext irritant
    have equal := same (.level irritant)
    simp only [stored] at equal
    exact Option.map_injective (fun _ _ levels => (Assignment.level.inj levels).2) equal
  have flag : first.flag = second.flag := by
    funext f
    exact (Assignment.flag.inj (Option.some.inj (same (.flag f)))).2
  have threshold : first.threshold = second.threshold := by
    funext t
    exact (Assignment.threshold.inj (Option.some.inj (same (.threshold t)))).2
  have conformance : first.conformance = second.conformance := by
    funext c
    exact (Assignment.conformance.inj (Option.some.inj (same (.conformance c)))).2
  have tagDescription : first.tagDescription = second.tagDescription :=
    Assignment.tagDescription.inj (Option.some.inj (same .tagDescription))
  have annotationName : first.annotationName = second.annotationName := by
    funext mark
    exact (Assignment.annotationName.inj (Option.some.inj (same (.annotationName mark)))).2
  cases first
  cases second
  simp_all only

theorem stored_assign (options : Options) (assignment : Assignment) (setting : Setting) :
    (options.assign assignment).stored setting =
      if setting = assignment.setting then some assignment else options.stored setting := by
  cases assignment <;> cases setting <;>
    simp only [assign, stored, replace, Assignment.setting, Setting.level.injEq, Setting.flag.injEq,
      Setting.threshold.injEq, Setting.conformance.injEq, Setting.annotationName.injEq, reduceCtorEq,
      if_false, if_true]
  all_goals
    split
    next same =>
      subst same
      rfl
    next => rfl

theorem current_assign (options : Options) (assignment : Assignment) (setting : Setting) :
    (options.assign assignment).current setting =
      if setting = assignment.setting then assignment else options.current setting := by
  rw [current_stored, stored_assign, current_stored options]
  split <;> rfl

theorem stored_assign_all (options base : Options) (order : List Setting) (setting : Setting) :
    (order.foldl (fun built setting => built.assign (options.current setting)) base).stored setting =
      if setting ∈ order then some (options.current setting) else base.stored setting := by
  induction order generalizing base with
  | nil => simp
  | cons first rest ih =>
      rw [List.foldl_cons, ih, stored_assign, current_setting]
      by_cases later : setting ∈ rest
      · simp [later]
      · by_cases here : setting = first
        · subst here
          simp
        · simp [later, here]

def ReadsBack (options : Options) (setting : Setting) : Prop := (options.current setting).IsLegible

def IsStorable (options : Options) : Prop := ∀ setting, options.ReadsBack setting

theorem apply_known (options : Options) (setting : Setting) (value : String) :
    options.apply setting.key value =
      match setting.assign? (Text.trim value) with
      | some assignment => .ok (options.assign assignment)
      | none => .error (setting.refusal (Text.trim value)) := by
  have known : Setting.ofKey? (Text.trim setting.key) = some setting := by
    rw [setting.key_trimmed, setting.of_key_key]
  unfold apply
  split
  next unknown => cases known.symm.trans unknown
  next found same =>
    obtain rfl := Option.some.inj (known.symm.trans same)
    rfl

theorem apply_value (options base : Options) (setting : Setting) (readsBack : options.ReadsBack setting) :
    base.apply setting.key (options.value setting) = .ok (base.assign (options.current setting)) := by
  have read := Assignment.assign_text (options.current setting) readsBack
  rw [current_setting, current_text] at read
  rw [apply_known, read]

theorem apply_values (options base : Options) (order : List Setting)
    (readBack : ∀ setting ∈ order, options.ReadsBack setting) :
    (order.map fun setting => (setting.key, options.value setting)).foldlM
        (fun (built : Options) (key, value) => built.apply key value) base =
      .ok (order.foldl (fun built setting => built.assign (options.current setting)) base) := by
  induction order generalizing base with
  | nil => rfl
  | cons setting rest ih =>
      obtain ⟨first, later⟩ := List.forall_mem_cons.mp readBack
      rw [List.map_cons, List.foldlM_cons]
      simp only [options.apply_value base setting first]
      exact ih _ later

theorem listed_in_order (options : Options) (entries : List (String × String))
    (listed : entries.Perm options.toSettings) :
    ∃ order : List Setting, entries = order.map (fun setting => (setting.key, options.value setting)) ∧
      order.Perm Setting.all :=
  (congrFun (congrFun (List.eq_map_comp_perm _) entries) Setting.all).mpr listed

theorem reload_settles (options : Options) (storable : options.IsStorable)
    (entries : List (String × String)) (listed : entries.Perm options.toSettings) :
    ofSettings entries = .ok options.settled := by
  obtain ⟨order, rfl, complete⟩ := options.listed_in_order entries listed
  rw [ofSettings, options.apply_values usual order fun setting _ => storable setting]
  refine congrArg Except.ok (stored_ext _ _ fun setting => ?_)
  rw [stored_assign_all, settled_stored, if_pos (complete.mem_iff.mpr setting.mem_all)]

theorem apply_unreleased (options base : Options) (unreleased : ¬ options.source.IsReleased) :
    base.apply (Setting.conformance .source).key (options.value (.conformance .source)) =
      .error (.invalidLevel Conformance.source.key options.source.describe) := by
  have unread : JavaLevel.read options.source.describe = none := by
    rw [JavaLevel.read_describe, if_neg unreleased]
  have value : options.value (.conformance .source) = options.source.describe := rfl
  rw [apply_known, value, JavaLevel.trim_describe]
  simp only [Setting.assign?, unread]
  rfl

-- What stands in front of the source level is taken, whatever the order, and nothing behind it is looked at.
theorem reload_refused (options : Options)
    (others : ∀ setting, setting ≠ .conformance .source → options.ReadsBack setting)
    (unreleased : ¬ options.source.IsReleased) (entries : List (String × String))
    (listed : entries.Perm options.toSettings) :
    ofSettings entries = .error (.invalidLevel Conformance.source.key options.source.describe) := by
  obtain ⟨order, rfl, complete⟩ := options.listed_in_order entries listed
  have somewhere : Setting.conformance .source ∈ order := complete.mem_iff.mpr (Setting.mem_all _)
  obtain ⟨front, back, rfl, first⟩ := List.eq_append_cons_of_mem somewhere
  have taken := options.apply_values usual front fun setting member =>
    others setting (ne_of_mem_of_not_mem member first)
  have refused := options.apply_unreleased
    (front.foldl (fun built setting => built.assign (options.current setting)) usual) unreleased
  rw [ofSettings, List.map_append, List.foldlM_append, taken, List.map_cons]
  simp only [bind, Except.bind, List.foldlM_cons, refused]

theorem settled_beq (options : Options) :
    (options.settled == options) = true ↔ ∀ irritant, options.chosen irritant ≠ none := by
  have rest : (options.settled == options) =
      (Irritant.all.all (fun irritant => some (options.level irritant) == options.chosen irritant) &&
        Flag.all.all (fun f => options.flag f == options.flag f) &&
        Threshold.all.all (fun t => options.threshold t == options.threshold t) &&
        Conformance.all.all (fun c => options.conformance c == options.conformance c) &&
        options.tagDescription == options.tagDescription &&
        NullMark.all.all (fun mark => options.annotationName mark == options.annotationName mark)) := rfl
  have levels : (options.settled == options) = true ↔
      ∀ irritant, some (options.level irritant) = options.chosen irritant := by
    simp [rest, Flag.all, Threshold.all, Conformance.all, NullMark.all, Irritant.mem_all]
  rw [levels]
  refine forall_congr' fun irritant => ?_
  unfold level
  cases options.chosen irritant <;> simp

-- A change that can be made to options. One that is refused leaves them as they are.
inductive Change where
  | apply (key value : String)
  | severity (irritant : Irritant) (level : Level)
  | docComments (on : Bool)
  /-- Checks the tags of doc comments; what is deprecated or hidden among their references, if asked to. -/
  | invalidTags (deprecated hidden : Bool)
  /-- Takes any level, also one that was never released and that no text names. -/
  | source (level : JavaLevel)
  | nullAnalysis (on : Bool)
  | fatalOptionalErrors (on : Bool)

def change (options : Options) : Change → Options
  | .apply key value =>
      match options.apply key value with
      | .ok next => next
      | .error _ => options
  | .severity irritant level => options.assign (.level irritant level)
  | .docComments on => options.assign (.flag .docComments on)
  | .invalidTags deprecated hidden =>
      options.assign (.flag .invalidTags true)
        |>.assign (.flag .invalidTagsDeprecated deprecated)
        |>.assign (.flag .invalidTagsHidden hidden)
  | .source level => options.assign (.conformance .source level)
  | .nullAnalysis on => options.assign (.flag .nullAnalysis on)
  | .fatalOptionalErrors on => options.assign (.flag .fatalOptionalErrors on)

inductive Preset where
  | usual
  | allWarnings
  | strict
  | quiet
deriving DecidableEq, Repr

def Preset.options : Preset → Options
  | usual => Options.usual
  | allWarnings => Options.allWarnings
  | strict => Options.strict
  | quiet => Options.quiet

def reached (preset : Preset) (changes : List Change) : Options := changes.foldl change preset.options

theorem assign_reads_back (options : Options) (setting : Setting) (readsBack : options.ReadsBack setting)
    (assignment : Assignment) (legible : assignment.setting = setting → assignment.IsLegible) :
    (options.assign assignment).ReadsBack setting := by
  unfold ReadsBack
  rw [current_assign]
  split
  next same => exact legible same.symm
  next => exact readsBack

theorem flag_reads_back (options : Options) (setting : Setting) (readsBack : options.ReadsBack setting)
    (f : Flag) (on : Bool) : (options.assign (.flag f on)).ReadsBack setting :=
  options.assign_reads_back setting readsBack (.flag f on) fun _ => trivial

theorem apply_reads_back (options : Options) (setting : Setting) (readsBack : options.ReadsBack setting)
    (key value : String) (next : Options) (applied : options.apply key value = .ok next) :
    next.ReadsBack setting := by
  unfold apply at applied
  split at applied
  next =>
    cases applied
    exact readsBack
  next named _ =>
    split at applied
    next assignment found =>
      cases applied
      exact options.assign_reads_back setting readsBack assignment fun _ =>
        Assignment.assigned_legible named value assignment found
    next => cases applied

theorem change_reads_back (options : Options) (setting : Setting) (readsBack : options.ReadsBack setting)
    (change : Change)
    (released : setting = .conformance .source → ∀ level, change = .source level → level.IsReleased) :
    (options.change change).ReadsBack setting := by
  cases change with
  | apply key value =>
      simp only [Options.change]
      split
      next next applied => exact options.apply_reads_back setting readsBack key value next applied
      next => exact readsBack
  | severity irritant level =>
      exact options.assign_reads_back setting readsBack (.level irritant level) fun _ => trivial
  | docComments on => exact options.flag_reads_back setting readsBack .docComments on
  | invalidTags deprecated hidden =>
      have checked := options.flag_reads_back setting readsBack .invalidTags true
      have narrowed := flag_reads_back _ setting checked .invalidTagsDeprecated deprecated
      exact flag_reads_back _ setting narrowed .invalidTagsHidden hidden
  | source level =>
      exact options.assign_reads_back setting readsBack (.conformance .source level) fun same =>
        released same.symm level rfl
  | nullAnalysis on => exact options.flag_reads_back setting readsBack .nullAnalysis on
  | fatalOptionalErrors on => exact options.flag_reads_back setting readsBack .fatalOptionalErrors on

theorem storable_of_same (options : Options) (conformance : options.conformance = usual.conformance)
    (names : options.annotationName = usual.annotationName) : options.IsStorable := by
  intro setting
  cases setting with
  | conformance c =>
      simp only [ReadsBack, current, Assignment.IsLegible, conformance]
      exact JavaLevel.usual_released
  | annotationName mark =>
      simp only [ReadsBack, current, Assignment.IsLegible, names]
      cases mark <;> decide +kernel
  | _ => trivial

theorem preset_storable (preset : Preset) : preset.options.IsStorable := by
  cases preset <;> exact storable_of_same _ rfl rfl

-- The source level alone may not be read back, and only if one was given that was never released.
theorem reached_reads_back (preset : Preset) (changes : List Change) (setting : Setting)
    (released : setting = .conformance .source → ∀ level, Change.source level ∈ changes → level.IsReleased) :
    (reached preset changes).ReadsBack setting := by
  unfold reached
  induction changes using List.reverseRecOn with
  | nil => exact preset_storable preset setting
  | append_singleton before last ih =>
      rw [List.foldl_append]
      refine change_reads_back _ setting (ih fun same level member => ?_) last fun same level here => ?_
      · exact released same level (List.mem_append_left _ member)
      · exact released same level (here ▸ List.mem_append_right _ List.mem_cons_self)

theorem reached_reads_others (preset : Preset) (changes : List Change) (setting : Setting)
    (other : setting ≠ .conformance .source) : (reached preset changes).ReadsBack setting :=
  reached_reads_back preset changes setting fun same => absurd same other

theorem reached_storable (preset : Preset) (changes : List Change)
    (released : (reached preset changes).source.IsReleased) : (reached preset changes).IsStorable := by
  intro setting
  by_cases source : setting = .conformance .source
  · subst source
    exact released
  · exact reached_reads_others preset changes setting source

end JavaDiagnostics.Options
