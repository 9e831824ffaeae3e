import JavaDiagnostics.Proofs.Session.Calls
import JavaDiagnostics.Proofs.Unit.Suppression

set_option autoImplicit false

namespace JavaDiagnostics

theorem suppresses_iff (reporter : Reporter) (context : Context) (code : Code) (severity : Severity)
    (span : Span) :
    reporter.suppresses context code severity span = true ↔
      reporter.options.flag .suppressWarnings = true ∧ severity.isOptional = true ∧
        (severity.isError = false ∨ reporter.options.flag .suppressOptionalErrors = true) ∧
        ∃ irritant, code.irritant? = some irritant ∧ irritant ≠ .unusedWarningToken ∧
          context.unit.isSuppressed irritant span = true := by
  unfold Reporter.suppresses
  simp only [Bool.and_eq_true, Bool.or_eq_true, Bool.not_eq_true']
  cases code.irritant? with
  | none => simp
  | some irritant =>
      simp only [Bool.and_eq_true, bne_iff_ne, Option.some.injEq, exists_eq_left']
      exact ⟨fun ⟨⟨⟨optional, on⟩, mild⟩, held⟩ => ⟨on, optional, mild, held⟩,
        fun ⟨on, optional, mild, held⟩ => ⟨⟨⟨optional, on⟩, mild⟩, held⟩⟩

theorem suppresses_same (reporter : Reporter) (a b : Context) (code : Code) (severity : Severity) (span : Span)
    (covered : ∀ irritant, a.unit.isSuppressed irritant span = b.unit.isSuppressed irritant span) :
    reporter.suppresses a code severity span = reporter.suppresses b code severity span := by
  simp only [Reporter.suppresses, covered]

namespace Session

theorem raised_recorded (call : Call) (reporter : Reporter) (context : Context) (description : Description)
    (policy : reporter.policy ≠ .ignoreAll) (raised : call.Raises reporter context description) :
    (call.outcome reporter (some context)).1.recorded =
      if reporter.suppresses context description.code (call.severity reporter.options) description.span then
        none
      else
        some (Reporter.diagnose description (call.severity reporter.options) (some context.unit)) := by
  have passed : Reports reporter (call.severity reporter.options) := fun ignoring => absurd ignoring policy
  by_cases covered : reporter.suppresses context description.code (call.severity reporter.options)
      description.span = true
  · rw [if_pos covered, Option.eq_none_iff_forall_ne_some]
    intro diagnostic recorded
    obtain ⟨other, records, _⟩ := (recorded_iff call reporter context diagnostic).mp recorded
    obtain rfl := Option.some.inj (records.raised.told.symm.trans raised.told)
    cases covered.symm.trans records.bare
  · rw [if_neg covered]
    exact (recorded_iff call reporter context _).mpr
      ⟨description, ⟨raised, passed, eq_false_of_ne_true covered⟩, rfl⟩

theorem withheld_iff (call : Call) (reporter : Reporter) (context : Context) (description : Description)
    (policy : reporter.policy ≠ .ignoreAll) (raised : call.Raises reporter context description) :
    (call.outcome reporter (some context)).1.recorded = none ↔
      reporter.suppresses context description.code (call.severity reporter.options) description.span =
        true := by
  rw [raised_recorded call reporter context description policy raised]
  by_cases covered : reporter.suppresses context description.code (call.severity reporter.options)
      description.span = true
  · rw [if_pos covered]
    exact ⟨fun _ => covered, fun _ => rfl⟩
  · rw [if_neg covered]
    exact ⟨fun absent => absurd absent (Option.some_ne_none _), fun held => absurd held covered⟩

-- What a call tells, and how its problem is placed, depends on the text of the unit and not on its regions.
theorem told_suppressed (call : Call) (reporter : Reporter) (context : Context) (unit : SourceUnit)
    (first second : Regions) :
    call.told reporter (some { context with unit := unit.suppressAll first }) =
      call.told reporter (some { context with unit := unit.suppressAll second }) := by
  rw [SourceUnit.suppress_all_eq, SourceUnit.suppress_all_eq]
  cases call with
  | report r => rfl
  | handle description => rfl
  | handleWith description severity => rfl

theorem diagnose_suppressed (description : Description) (severity : Severity) (unit : SourceUnit)
    (first second : Regions) :
    Reporter.diagnose description severity (some (unit.suppressAll first)) =
      Reporter.diagnose description severity (some (unit.suppressAll second)) := by
  rw [SourceUnit.suppress_all_eq, SourceUnit.suppress_all_eq]
  rfl

theorem suppression_exact (file : String) (address : Nat) (source : String) (regions : Regions)
    (call : Call) (reporter : Reporter) (context : Context) (description : Description)
    (policy : reporter.policy ≠ .ignoreAll)
    (built : context.unit = (SourceUnit.ofText file address source).suppressAll regions)
    (loud : (call.severity reporter.options).isIgnored = false)
    (told : call.told reporter (some context) = some description) :
    ((call.outcome reporter (some context)).1.recorded = none ↔
      reporter.options.flag .suppressWarnings = true ∧
      (call.severity reporter.options).isOptional = true ∧
      ((call.severity reporter.options).isError = false ∨
        reporter.options.flag .suppressOptionalErrors = true) ∧
      ∃ irritant, description.code.irritant? = some irritant ∧ irritant ≠ .unusedWarningToken ∧
        ∃ region token, regions.Carries region token ∧
          region.start ≤ description.span.start ∧ description.span.stop ≤ region.stop ∧
          (irritant.token = some token ∨ token = "all" ∧ irritant.token.isSome = true)) ∧
    ∀ others : Regions,
      (∀ region token, Irritant.isToken token = true →
        (others.Carries region token ↔ regions.Carries region token)) →
      (call.outcome reporter (some { context with
        unit := (SourceUnit.ofText file address source).suppressAll others })).1.recorded =
        (call.outcome reporter (some context)).1.recorded := by
  have raised : call.Raises reporter context description := ⟨loud, told⟩
  constructor
  · rw [withheld_iff call reporter context description policy raised, suppresses_iff, built]
    simp only [SourceUnit.suppressed_iff, Span.encloses, Bool.and_eq_true, decide_eq_true_eq,
      Irritant.silenced_by_iff, and_assoc]
  · intro others carried
    have recorded := raised_recorded call reporter context description policy raised
    obtain ⟨_, scope, errors, ignored⟩ := context
    subst built
    have same := told_suppressed call reporter ⟨.ofText file address source, scope, errors, ignored⟩
      (.ofText file address source) others regions
    have again := raised_recorded call reporter
      ⟨(SourceUnit.ofText file address source).suppressAll others, scope, errors, ignored⟩ description
      policy ⟨loud, same.trans told⟩
    have covered := suppresses_same reporter
      ⟨(SourceUnit.ofText file address source).suppressAll others, scope, errors, ignored⟩
      ⟨(SourceUnit.ofText file address source).suppressAll regions, scope, errors, ignored⟩
      description.code (call.severity reporter.options) description.span fun irritant =>
        SourceUnit.suppressed_carried file address source others regions irritant description.span carried
    rw [again, recorded, covered, diagnose_suppressed description _ _ others regions]

theorem nested_regions_withhold :
    let call := Call.handle ⟨.unusedLocal, ["x"], ["x"], ⟨14, 14⟩⟩
    let reporter := Reporter.new .usual .proceed
    let context (regions : Regions) :=
      Context.opened ((SourceUnit.ofText "A.java" 0 "class A { int x; }").suppressAll regions) .type
    let nested : Regions := [(⟨0, 17⟩, ["all", " unused"]), (⟨10, 15⟩, ["nls"])]
    let inner : Regions := [(⟨10, 15⟩, ["nls"])]
    (call.outcome reporter (some (context nested))).1.recorded = none ∧
      (call.outcome reporter (some (context (inner ++ [(⟨0, 17⟩, ["all"])])))).1.recorded = none ∧
      (call.outcome reporter (some (context inner))).1.recorded ≠ none := by
  intro call reporter context nested inner
  have governed : Code.unusedLocal.irritant? = some .unusedLocalVariable := by decide
  obtain ⟨withheld, alike⟩ := suppression_exact "A.java" 0 "class A { int x; }" nested call reporter
    (context nested) _ (by decide) rfl (by decide) rfl
  obtain ⟨shown, _⟩ := suppression_exact "A.java" 0 "class A { int x; }" inner call reporter
    (context inner) _ (by decide) rfl (by decide) rfl
  have silent := withheld.mpr ⟨rfl, by decide, .inl (by decide), .unusedLocalVariable, governed, by decide, ⟨0, 17⟩, "all",
    ⟨_, .head _, .head _⟩, by decide, by decide, .inr ⟨rfl, rfl⟩⟩
  refine ⟨silent, (alike _ ?_).trans silent, ?_⟩
  · intro region token known
    have blank : token ≠ " unused" := by
      rintro rfl
      exact absurd known (by decide)
    simp only [Regions.Carries, nested, inner]
    grind
  · intro absent
    obtain ⟨_, _, _, irritant, same, _, region, token, ⟨tokens, added, given⟩, _, _, names⟩ := shown.mp absent
    obtain rfl := Option.some.inj (governed.symm.trans same)
    obtain ⟨rfl, rfl⟩ := Prod.mk.inj (List.mem_singleton.mp added)
    obtain rfl := List.mem_singleton.mp given
    exact absurd names (by decide)

end Session

end JavaDiagnostics
