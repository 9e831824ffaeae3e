import JavaDiagnostics.Classification

/-!
A severity of the caller's choice may mix base levels; one that options decide is never of two at once.
-/

set_option autoImplicit false

namespace JavaDiagnostics

def Code.oversized : List Code := [.methodTooLarge, .initializerTooLarge, .constructorTooLarge]

-- Rules that decide in place of an irritant, and not only against one.
def Rule.isFixed : Rule → Bool
  | .oversized | .alwaysWarning | .underscore | .internalError => true
  | _ => false

-- A fixed rule belongs to a code without an irritant, and one that silences what is not wanted to a doc
-- comment.
def Entry.agrees (entry : Entry) : Bool :=
  if entry.rule.isFixed then
    entry.irritant.isNone && !entry.code.belongsTo .javadoc &&
      (entry.rule == .oversized) == Code.oversized.contains entry.code
  else entry.rule == .configured || entry.code.belongsTo .javadoc

theorem entries_agree : Catalog.entries.all Entry.agrees = true := by decide +kernel

namespace Severity

def isMixed (s : Severity) : Bool := s.isError && s.isInfo

theorem meets_or (s a b : Severity) : s.meets (a ||| b) = (s.meets a || s.meets b) := by
  have parts : s.bits &&& (a.bits ||| b.bits) = (s.bits &&& a.bits) ||| (s.bits &&& b.bits) :=
    UInt32.toBitVec_inj.mp BitVec.and_or_distrib_left
  change (s.bits &&& (a.bits ||| b.bits) != 0) = _
  rw [parts, Bool.eq_iff_iff]
  simp only [meets, bne_iff_ne, Bool.or_eq_true, ne_eq, UInt32.or_eq_zero_iff, Decidable.not_and_iff_or_not]

theorem is_warning_eq (s : Severity) : s.isWarning = !(s.isError || s.isInfo || s.isIgnored) := by
  simp only [isWarning, meets_or, isError, isInfo, isIgnored]

def isPure (s : Severity) : Bool := !s.isMixed && !(s.isError && s.isIgnored) && !(s.isInfo && s.isIgnored)

def fixed : List Severity := [warning, internalError, error ||| fatal]

def leveled : List Severity :=
  [ignore, info ||| optional, warning ||| optional, error ||| optional, error ||| optional ||| fatal]

theorem fixed_required :
    ∀ s ∈ fixed, s.isOptional = false ∧ s.isIgnored = false ∧ s.abortPart = ⟨0⟩ ∧ s.isPure = true := by decide

theorem leveled_optional :
    ∀ s ∈ leveled, s.isOptional = !s.isIgnored ∧ s.abortPart = ⟨0⟩ ∧ s.isPure = true := by decide

end Severity

namespace Code

theorem oversized_rule : ∀ code ∈ oversized, code.rule = .oversized := by decide +kernel

theorem entry_agrees (code : Code) (entry : Entry) (found : code.entry? = some entry) :
    entry.agrees = true ∧ entry.code = code ∧ code.rule = entry.rule := by
  have search : Catalog.entries.find? (fun entry => entry.code = code) = some entry := found
  have named : entry.code = code := by simpa using List.find?_some search
  refine ⟨List.all_eq_true.mp entries_agree entry (List.mem_of_find?_eq_some search), named, ?_⟩
  rw [rule, found]
  rfl

theorem rule_entry (code : Code) (ruled : code.rule ≠ .configured) : ∃ entry, code.entry? = some entry := by
  cases found : code.entry? with
  | some entry => exact ⟨entry, rfl⟩
  | none =>
      rw [rule, found] at ruled
      exact absurd rfl ruled

theorem fixed_free (code : Code) (fixed : code.rule.isFixed = true) :
    code.irritant? = none ∧ (code.rule = .oversized ↔ code ∈ oversized) := by
  obtain ⟨entry, found⟩ := code.rule_entry fun configured => by simp [configured, Rule.isFixed] at fixed
  obtain ⟨agrees, named, same⟩ := code.entry_agrees entry found
  rw [same] at fixed
  simp only [Entry.agrees, fixed, if_true, named, Bool.and_eq_true, Bool.not_eq_true',
    Option.isNone_iff_eq_none, beq_iff_eq] at agrees
  obtain ⟨⟨free, plain⟩, listed⟩ := agrees
  constructor
  · simp [irritant?, found, free, plain]
  · rw [same, ← List.contains_iff_mem, ← listed, beq_iff_eq]

theorem ruled_comment (code : Code) (ruled : code.rule ≠ .configured) (loose : code.rule.isFixed = false) :
    code.belongsTo .javadoc = true := by
  obtain ⟨entry, found⟩ := code.rule_entry ruled
  obtain ⟨agrees, named, same⟩ := code.entry_agrees entry found
  rw [same] at ruled loose
  simpa [Entry.agrees, loose, ruled, named] using agrees

theorem comment_governed (code : Code) (comment : code.belongsTo .javadoc = true) :
    ∃ irritant, code.irritant? = some irritant := by
  unfold irritant?
  cases code.entry?.bind (·.irritant) with
  | some irritant => exact ⟨irritant, rfl⟩
  | none => exact ⟨.invalidJavadoc, if_pos comment⟩

theorem free_no_comment (code : Code) (free : code.irritant? = none) : code.belongsTo .javadoc = false := by
  refine eq_false_of_ne_true fun comment => ?_
  obtain ⟨irritant, governed⟩ := code.comment_governed comment
  cases free.symm.trans governed

theorem governed_unlisted (code : Code) (irritant : Irritant) (governed : code.irritant? = some irritant) :
    code ∉ oversized := by
  intro member
  have rule := oversized_rule code member
  have free := (code.fixed_free (by rw [rule]; rfl)).1
  cases free.symm.trans governed

end Code

namespace Options

-- How the severity of a code comes about: without an irritant in one of a few fixed ways, whatever the
-- options are, and with one by its level or not at all.
inductive Gives (options : Options) (code : Code) : Severity → Prop where
  | oversized (listed : code ∈ Code.oversized) (free : code.irritant? = none) :
      Gives options code (.error ||| .abort ||| .fatal)
  | fixed (severity : Severity) (known : severity ∈ Severity.fixed)
      (unlisted : code ∉ Code.oversized) (free : code.irritant? = none) : Gives options code severity
  | silenced (irritant : Irritant) (governed : code.irritant? = some irritant) : Gives options code .ignore
  | leveled (irritant : Irritant) (governed : code.irritant? = some irritant)
      (heard : code.belongsTo .javadoc = true → options.flag .docComments = true) :
      Gives options code (options.severity irritant)

theorem configured_free (options : Options) (code : Code) (free : code.irritant? = none) :
    options.configured code = .error ||| .fatal := by
  unfold configured
  rw [free]

theorem configured_governed (options : Options) (code : Code) (irritant : Irritant)
    (governed : code.irritant? = some irritant) :
    options.configured code =
      if code.belongsTo .javadoc = true → options.flag .docComments = true then options.severity irritant
      else .ignore := by
  unfold configured
  rw [governed]
  dsimp only
  cases code.belongsTo .javadoc <;> cases options.flag .docComments <;> rfl

theorem configured_gives (options : Options) (code : Code) (unlisted : code ∉ Code.oversized) :
    options.Gives code (options.configured code) := by
  cases governed : code.irritant? with
  | none =>
      rw [options.configured_free code governed]
      exact .fixed _ (by decide) unlisted governed
  | some irritant =>
      rw [options.configured_governed code irritant governed]
      split
      · rename_i heard
        exact .leveled irritant governed heard
      · exact .silenced irritant governed

theorem ruled_fixed (options : Options) (rule : Rule) (severity : Severity) (fixed : rule.isFixed = true)
    (ruled : options.ruled? rule = some severity) :
    rule = .oversized ∧ severity = .error ||| .abort ||| .fatal ∨
      rule ≠ .oversized ∧ severity ∈ Severity.fixed := by
  cases rule with
  | oversized =>
      cases ruled
      exact .inl ⟨rfl, rfl⟩
  | alwaysWarning | internalError =>
      cases ruled
      exact .inr ⟨by decide, by decide⟩
  | underscore =>
      obtain ⟨_, told⟩ := Option.ite_none_right_eq_some.mp ruled
      cases told
      exact .inr ⟨by decide, by decide⟩
  | _ => cases fixed

theorem ruled_loose (options : Options) (rule : Rule) (severity : Severity) (loose : rule.isFixed = false)
    (ruled : options.ruled? rule = some severity) : rule ≠ .configured ∧ severity = .ignore := by
  cases rule with
  | oversized | alwaysWarning | underscore | internalError => cases loose
  | configured => cases ruled
  | reference | deprecatedReference | hiddenReference | tagDescription =>
      obtain ⟨_, told⟩ := Option.ite_none_left_eq_some.mp ruled
      exact ⟨by decide, (Option.some.inj told).symm⟩
  | emptyReturnTag =>
      obtain ⟨_, told⟩ := Option.ite_none_right_eq_some.mp ruled
      exact ⟨by decide, (Option.some.inj told).symm⟩

theorem severity_of_gives (options : Options) (code : Code) : options.Gives code (options.severityOf code) := by
  unfold severityOf
  cases ruled : options.ruled? code.rule with
  | none =>
      refine options.configured_gives code fun member => ?_
      rw [Code.oversized_rule code member] at ruled
      cases ruled
  | some severity =>
      by_cases fixed : code.rule.isFixed = true
      · obtain ⟨free, listed⟩ := code.fixed_free fixed
        rcases options.ruled_fixed code.rule severity fixed ruled with ⟨rule, rfl⟩ | ⟨rule, known⟩
        · exact .oversized (listed.mp rule) free
        · exact .fixed severity known (fun member => rule (listed.mpr member)) free
      · obtain ⟨told, rfl⟩ := options.ruled_loose code.rule severity (eq_false_of_ne_true fixed) ruled
        obtain ⟨irritant, governed⟩ := code.comment_governed (code.ruled_comment told (eq_false_of_ne_true fixed))
        exact .silenced irritant governed

theorem severity_leveled (options : Options) (irritant : Irritant) :
    options.severity irritant ∈ Severity.leveled := by
  unfold severity
  cases options.level irritant with
  | error =>
      dsimp only
      split
      · decide
      · decide
  | warning | info | ignore =>
      dsimp only
      decide

theorem severity_of_pure (options : Options) (code : Code) : (options.severityOf code).isPure = true := by
  have gives := options.severity_of_gives code
  generalize options.severityOf code = severity at gives ⊢
  cases gives with
  | oversized listed free => rfl
  | fixed _ known unlisted free => exact (Severity.fixed_required _ known).2.2.2
  | silenced irritant governed => rfl
  | leveled irritant governed heard =>
      exact (Severity.leveled_optional _ (options.severity_leveled irritant)).2.2

theorem severity_of_unmixed (options : Options) (code : Code) : (options.severityOf code).isMixed = false := by
  have pure := options.severity_of_pure code
  simp only [Severity.isPure, Bool.and_eq_true, Bool.not_eq_true'] at pure
  exact pure.1.1

theorem severity_follows_irritant (options : Options) (code : Code) :
    let severity := options.severityOf code
    (severity.isOptional = true ↔ severity.isIgnored = false ∧ ∃ irritant, code.irritant? = some irritant) ∧
      (severity.isIgnored = true → ∃ irritant, code.irritant? = some irritant) ∧
      severity.abortPart = (if code ∈ Code.oversized then .abort else ⟨0⟩) ∧
      severity.isPure = true ∧
      (code.belongsTo .javadoc = true → options.flag .docComments = false → severity = .ignore) := by
  intro severity
  have gives : options.Gives code severity := options.severity_of_gives code
  have pure : severity.isPure = true := options.severity_of_pure code
  generalize severity = given at gives pure ⊢
  cases gives with
  | oversized listed free =>
      rw [if_pos listed]
      refine ⟨⟨nofun, ?_⟩, nofun, rfl, pure, ?_⟩
      · simp [free]
      · simp [code.free_no_comment free]
  | fixed _ known unlisted free =>
      obtain ⟨required, loud, keeps, _⟩ := Severity.fixed_required given known
      rw [if_neg unlisted]
      refine ⟨?_, ?_, keeps, pure, ?_⟩
      · simp [required, free]
      · simp [loud]
      · simp [code.free_no_comment free]
  | silenced irritant governed =>
      rw [if_neg (code.governed_unlisted irritant governed)]
      exact ⟨⟨nofun, fun held => nomatch held.1⟩, fun _ => ⟨irritant, governed⟩, rfl, pure, fun _ _ => rfl⟩
  | leveled irritant governed heard =>
      obtain ⟨optional, keeps, _⟩ := Severity.leveled_optional _ (options.severity_leveled irritant)
      rw [if_neg (code.governed_unlisted irritant governed)]
      refine ⟨?_, fun _ => ⟨irritant, governed⟩, keeps, pure, ?_⟩
      · simp [optional, governed]
      · intro comment off
        cases off.symm.trans (heard comment)

theorem unknown_comment_silenced :
    let code : Code := 0x80000001
    code.belongsTo .javadoc = true ∧ Options.strict.flag .docComments = false ∧
      strict.severityOf code = .ignore ∧ ∃ irritant, code.irritant? = some irritant := by
  intro code
  obtain ⟨_, governed, _, _, silent⟩ := severity_follows_irritant strict code
  have ignored := silent (by decide) (by decide)
  exact ⟨by decide, by decide, ignored, governed (by rw [ignored]; rfl)⟩

end Options

end JavaDiagnostics
