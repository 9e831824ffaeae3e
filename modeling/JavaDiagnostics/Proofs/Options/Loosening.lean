import JavaDiagnostics.Proofs.Classification
import JavaDiagnostics.Proofs.Options.Saving

set_option autoImplicit false

namespace JavaDiagnostics

-- Most flags ask for more when they are on, and two suppress. The others change what a problem is told as, or
-- how it ends, and stay as they are.
def Flag.Loosens (before after : Bool) : Flag → Prop
  | docComments | invalidTags | invalidTagsDeprecated | invalidTagsHidden | commentsOverriding
  | tagsOverriding => before = true → after = true
  | suppressWarnings | suppressOptionalErrors => after = true → before = true
  | fatalOptionalErrors | nullAnalysis => after = before

def Assignment.Loosens (options : Options) : Assignment → Prop
  | .level irritant given => options.level irritant ≤ given
  | .flag f on => f.Loosens (options.flag f) on
  | .threshold t visibility => (options.threshold t).rank ≤ visibility.rank
  | .conformance .source given => options.source.major ≤ given.major
  | .conformance .compliance given => given = options.conformance .compliance
  | .tagDescription mode => options.tagDescription.rank ≤ mode.rank
  | .annotationName mark name => name = options.annotationName mark

def Options.Loosened (before after : Options) : Prop := ∀ setting, (after.current setting).Loosens before

theorem Level.lowest (level : Level) (low : level ≤ .ignore) : level = .ignore := by
  revert low
  cases level <;> decide

theorem Level.highest (level : Level) (high : .error ≤ level) : level = .error := by
  revert high
  cases level <;> decide

theorem TagDescription.lowest (mode : TagDescription) : mode = .noTag ↔ mode.rank = 0 := by
  cases mode <;> decide

theorem TagDescription.highest (mode : TagDescription) : mode = .allTags ↔ 2 ≤ mode.rank := by
  cases mode <;> decide

namespace Severity

theorem level_ignored (s : Severity) : s.isIgnored = true ↔ s.level = .ignore := by
  unfold level
  by_cases ignored : s.isIgnored = true
  · rw [if_pos ignored]
    exact iff_of_true ignored rfl
  · rw [if_neg ignored]
    refine iff_of_false ignored ?_
    split
    · nofun
    · split <;> nofun

theorem level_error (s : Severity) (loud : s.isIgnored = false) : s.isError = true ↔ s.level = .error := by
  unfold level
  rw [loud, if_neg Bool.false_ne_true]
  by_cases harmful : s.isError = true
  · rw [if_pos harmful]
    exact iff_of_true harmful rfl
  · rw [if_neg harmful]
    refine iff_of_false harmful ?_
    split <;> nofun

-- At a level that is no lower, and no easier to leave out: not optional if it was not, and a failure of the
-- compiler itself if it was one.
structure Raised (first second : Severity) : Prop where
  level : first.level ≤ second.level
  optional : second.isOptional = true → first.isOptional = true
  internal : first.contains .internalError = true → second.contains .internalError = true

theorem raised_self (s : Severity) : s.Raised s := ⟨Nat.le_refl _, id, id⟩

theorem raised_loud (first second : Severity) (raised : first.Raised second) (loud : first.isIgnored = false) :
    second.isIgnored = false := by
  refine eq_false_of_ne_true fun ignored => ?_
  have low : first.level ≤ .ignore := second.level_ignored.mp ignored ▸ raised.level
  have ignoredToo := first.level_ignored.mpr (Level.lowest _ low)
  cases ignoredToo.symm.trans loud

theorem raised_error (first second : Severity) (raised : first.Raised second) (loud : first.isIgnored = false)
    (harmful : first.isError = true) : second.isError = true := by
  have high : .error ≤ second.level := (first.level_error loud).mp harmful ▸ raised.level
  exact (second.level_error (raised_loud first second raised loud)).mpr (Level.highest _ high)

theorem leveled_checked : ∀ s ∈ leveled, s.contains .internalError = false := by decide

end Severity

namespace Options

theorem current_loosens (options : Options) (setting : Setting) : (options.current setting).Loosens options := by
  cases setting with
  | level irritant | threshold t | tagDescription => exact Nat.le_refl _
  | flag f =>
      cases f with
      | fatalOptionalErrors | nullAnalysis => rfl
      | _ => exact id
  | conformance c =>
      cases c with
      | source => exact Nat.le_refl _
      | compliance => rfl
  | annotationName mark => rfl

theorem loosened_trans (first second third : Options) (one : first.Loosened second)
    (other : second.Loosened third) : first.Loosened third := by
  intro setting
  have low := one setting
  have high := other setting
  cases setting with
  | level irritant | threshold t | tagDescription => exact Nat.le_trans low high
  | flag f =>
      cases f with
      | fatalOptionalErrors | nullAnalysis => exact Eq.trans high low
      | suppressWarnings | suppressOptionalErrors => exact low ∘ high
      | _ => exact high ∘ low
  | conformance c =>
      cases c with
      | source => exact Nat.le_trans low high
      | compliance => exact Eq.trans high low
  | annotationName mark => exact Eq.trans high low

theorem loosened_assign (options : Options) (assignment : Assignment) (loosens : assignment.Loosens options) :
    options.Loosened (options.assign assignment) := by
  intro setting
  rw [current_assign]
  split
  · exact loosens
  · exact options.current_loosens setting

theorem severity_level (options : Options) (irritant : Irritant) :
    (options.severity irritant).level = options.level irritant := by
  unfold severity
  cases options.level irritant with
  | error =>
      dsimp only
      split <;> decide
  | warning | info | ignore =>
      dsimp only
      decide

theorem severity_raised (before after : Options) (loosened : before.Loosened after) (irritant : Irritant)
    (loud : (before.severity irritant).isIgnored = false) :
    (before.severity irritant).Raised (after.severity irritant) := by
  have first := before.severity_leveled irritant
  refine ⟨?_, fun _ => ?_, fun internal => ?_⟩
  · rw [severity_level, severity_level]
    exact loosened (.level irritant)
  · rw [(Severity.leveled_optional _ first).1, loud]
    rfl
  · rw [Severity.leveled_checked _ first] at internal
    cases internal

theorem configured_raised (before after : Options) (loosened : before.Loosened after) (code : Code)
    (loud : (before.configured code).isIgnored = false) :
    (before.configured code).Raised (after.configured code) := by
  cases governed : code.irritant? with
  | none =>
      rw [before.configured_free code governed, after.configured_free code governed]
      exact Severity.raised_self _
  | some irritant =>
      rw [before.configured_governed code irritant governed] at loud ⊢
      rw [after.configured_governed code irritant governed]
      by_cases heard : code.belongsTo .javadoc = true → before.flag .docComments = true
      · rw [if_pos heard] at loud ⊢
        rw [if_pos fun comment => loosened (.flag .docComments) (heard comment)]
        exact severity_raised before after loosened irritant loud
      · rw [if_neg heard] at loud
        cases loud

theorem ruled_unruled (before after : Options) (loosened : before.Loosened after) (rule : Rule)
    (loose : rule.isFixed = false) (unruled : before.ruled? rule = none) : after.ruled? rule = none := by
  have tags : before.flag .invalidTags = true → after.flag .invalidTags = true := loosened (.flag .invalidTags)
  have mode : before.tagDescription.rank ≤ after.tagDescription.rank := loosened .tagDescription
  cases rule with
  | configured => rfl
  | oversized | alwaysWarning | underscore | internalError => cases loose
  | reference =>
      simp only [ruled?, ite_eq_left_iff, reduceCtorEq, imp_false, Decidable.not_not] at unruled ⊢
      exact tags unruled
  | deprecatedReference =>
      simp only [ruled?, ite_eq_left_iff, reduceCtorEq, imp_false, Decidable.not_not,
        Bool.and_eq_true] at unruled ⊢
      exact ⟨tags unruled.1, loosened (.flag .invalidTagsDeprecated) unruled.2⟩
  | hiddenReference =>
      simp only [ruled?, ite_eq_left_iff, reduceCtorEq, imp_false, Decidable.not_not,
        Bool.and_eq_true] at unruled ⊢
      exact ⟨tags unruled.1, loosened (.flag .invalidTagsHidden) unruled.2⟩
  | emptyReturnTag | tagDescription =>
      simp only [ruled?, ite_eq_left_iff, ite_eq_right_iff, reduceCtorEq, imp_false, Decidable.not_not,
        TagDescription.lowest, TagDescription.highest] at unruled ⊢
      omega

-- The underscore alone, among what fixed rules decide, is taken more seriously by later source levels.
theorem fixed_raised (before after : Options) (loosened : before.Loosened after) (rule : Rule)
    (fixed : rule.isFixed = true) :
    ((before.ruled? rule).getD (.error ||| .fatal)).Raised ((after.ruled? rule).getD (.error ||| .fatal)) := by
  cases rule with
  | oversized | alwaysWarning | internalError => exact Severity.raised_self _
  | underscore =>
      have source : before.source.major ≤ after.source.major := loosened (.conformance .source)
      dsimp only [ruled?]
      by_cases old : after.source < .underscoreKeyword
      · have older : before.source < .underscoreKeyword := Nat.lt_of_le_of_lt source old
        rw [if_pos old, if_pos older]
        exact Severity.raised_self _
      · rw [if_neg old]
        split
        · exact ⟨by decide, by decide, by decide⟩
        · exact Severity.raised_self _
  | _ => cases fixed

theorem severity_of_raised (before after : Options) (loosened : before.Loosened after) (code : Code)
    (loud : (before.severityOf code).isIgnored = false) :
    (before.severityOf code).Raised (after.severityOf code) := by
  unfold severityOf at loud ⊢
  by_cases fixed : code.rule.isFixed = true
  · have free := (code.fixed_free fixed).1
    rw [before.configured_free code free, after.configured_free code free]
    exact fixed_raised before after loosened code.rule fixed
  · have loose := eq_false_of_ne_true fixed
    cases ruled : before.ruled? code.rule with
    | some severity =>
        obtain ⟨_, rfl⟩ := before.ruled_loose code.rule severity loose ruled
        rw [ruled, Option.getD_some] at loud
        cases loud
    | none =>
        rw [ruled] at loud
        rw [ruled_unruled before after loosened code.rule loose ruled]
        exact configured_raised before after loosened code loud

end Options

end JavaDiagnostics
