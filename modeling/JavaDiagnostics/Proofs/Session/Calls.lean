import JavaDiagnostics.Proofs.Finding.Rendering
import JavaDiagnostics.Session

/-!
What one call does. Every call is reduced to its severity and to what it has to tell, and in a context it
meets one of five fates.
-/

set_option autoImplicit false

namespace JavaDiagnostics

theorem load_settings (reporter : Reporter) (context : Option Context) :
    (reporter.load context).options = reporter.options ∧
      (reporter.load context).policy = reporter.policy := by
  unfold Reporter.load
  dsimp only
  split
  · exact ⟨rfl, rfl⟩
  · exact ⟨rfl, rfl⟩

theorem load_under (reporter : Reporter) (options : Options) (context : Option Context) :
    ({ reporter with options } : Reporter).load context = { reporter.load context with options } := by
  unfold Reporter.load
  dsimp only
  split <;> rfl

-- The text that is loaded plays no part in what becomes of a problem that is raised.
theorem dispatch_settings (a b : Reporter) (context : Option Context) (description : Description)
    (severity : Severity) (options : a.options = b.options) (policy : a.policy = b.policy) :
    a.dispatch context description severity = b.dispatch context description severity := by
  cases a
  cases b
  subst options policy
  rfl

def Diagnostic.isFatalError (diagnostic : Diagnostic) : Bool :=
  diagnostic.severity.isError && diagnostic.severity.isFatal

namespace Session

def Call.code : Call → Code
  | report r => r.code
  | handle description => description.code
  | handleWith description _ => description.code

def Call.severity (options : Options) : Call → Severity
  | report r => options.severityOf r.code
  | handle description => options.severityOf description.code
  | handleWith _ severity => severity

def Call.told (reporter : Reporter) (context : Option Context) : Call → Option Description
  | report r => (r.describe? reporter.options (reporter.load context).scanner).1
  | handle description => some description
  | handleWith description _ => some description

def raise (reporter : Reporter) (context : Option Context) (severity : Severity) :
    Option Description → Outcome
  | none => .silent context
  | some description => reporter.dispatch context description severity

theorem report_outcome (reporter : Reporter) (context : Option Context) (r : Report) :
    (reporter.report context r).1 =
      if (reporter.options.severityOf r.code).isIgnored then .silent context
      else raise reporter context (reporter.options.severityOf r.code)
        ((Call.report r).told reporter context) := by
  obtain ⟨options, policy⟩ := load_settings reporter context
  have told : (Call.report r).told reporter context =
      (r.describe? (reporter.load context).options (reporter.load context).scanner).1 := by
    rw [options]
    rfl
  rw [told]
  unfold Reporter.report
  dsimp only
  split
  · rfl
  · cases (r.describe? (reporter.load context).options (reporter.load context).scanner).1 with
    | none => rfl
    | some description => exact dispatch_settings _ reporter context description _ options policy

theorem call_outcome (call : Call) (reporter : Reporter) (context : Option Context) :
    (call.outcome reporter context).1 =
      if (call.severity reporter.options).isIgnored then .silent context
      else raise reporter context (call.severity reporter.options) (call.told reporter context) := by
  cases call with
  | report r => exact report_outcome reporter context r
  | handle description => rfl
  | handleWith description severity => rfl

theorem report_as_handle (r : Report) :
    (∀ (options : Options) (scanner : Scanner) (description : Description),
      (r.describe? options scanner).1 = some description → description.code = r.code) ∧
    ∀ (reporter : Reporter) (context : Option Context),
      let told := (r.describe? reporter.options (reporter.load context).scanner).1
      (∀ description : Description, told = some description →
        (reporter.report context r).1 = reporter.handle context description) ∧
      (told = none ∨ (reporter.options.severityOf r.code).isIgnored = true →
        (reporter.report context r).1 = ⟨context, none, none⟩) := by
  have named : ∀ (options : Options) (scanner : Scanner) (description : Description),
      (r.describe? options scanner).1 = some description → description.code = r.code :=
    fun options scanner => (describe_tells options r).code scanner
  refine ⟨named, ?_⟩
  intro reporter context told
  constructor
  · intro description found
    have same := named reporter.options (reporter.load context).scanner description found
    have heard : (Call.report r).told reporter context = some description := found
    rw [report_outcome, heard, ← same]
    rfl
  · intro silenced
    rw [report_outcome]
    by_cases ignored : (reporter.options.severityOf r.code).isIgnored = true
    · rw [if_pos ignored]
      rfl
    · rw [if_neg ignored]
      rcases silenced with untold | quiet
      · have nothing : (Call.report r).told reporter context = none := untold
        rw [nothing]
        rfl
      · exact absurd quiet ignored

-- The return type of a method is missing, and so another problem is recorded than the one that was found.
theorem missing_type_report_as_handle :
    let reporter := Reporter.new .usual .proceed
    let unit := SourceUnit.ofText "A.java" 0 "class A { int b = c(); }"
    let context := Context.opened unit .type
    let gone : JavaType := { JavaType.named .reference "com.acme" ["Gone"] with missing := true }
    let sent : Report := ⟨.undefinedMethod ⟨.named .reference "" ["A"], "c", [], gone, false, false⟩, .name ⟨18, 18⟩⟩
    let comment : Report := ⟨.missingComment ⟨.publicMember, false⟩, .name ⟨6, 6⟩⟩
    (∃ description : Description, description.code = .missingTypeInMethod ∧
        (reporter.report (some context) sent).1 = reporter.handle (some context) description ∧
        reporter.handle (some context) description = ⟨some context.tagErrors,
          some (Reporter.diagnose description (.error ||| .fatal) (some unit)), none⟩) ∧
      (reporter.report (some context) comment).1 = ⟨some context, none, none⟩ := by
  intro reporter unit context gone sent comment
  obtain ⟨named, agree⟩ := report_as_handle sent
  obtain ⟨_, hidden⟩ := report_as_handle comment
  obtain ⟨description, told⟩ : ∃ description,
      (sent.describe? reporter.options (reporter.load (some context)).scanner).1 = some description := ⟨_, rfl⟩
  have code : description.code = .missingTypeInMethod := named _ _ _ told
  have severity : Options.usual.severityOf .missingTypeInMethod = .error ||| .fatal := by decide +kernel
  refine ⟨⟨description, code, (agree reporter (some context)).1 description told, ?_⟩, ?_⟩
  · have raised : reporter.options.severityOf description.code = .error ||| .fatal := code ▸ severity
    rw [Reporter.handle, raised]
    rfl
  · refine (hidden reporter (some context)).2 (.inr ?_)
    have ignored : Options.usual.severityOf .javadocMissingComment = .ignore := by decide +kernel
    exact (congrArg Severity.isIgnored ignored).trans (by decide)

theorem adrift_records_nothing (call : Call) (reporter : Reporter) :
    (call.outcome reporter none).1.recorded = none := by
  rw [call_outcome]
  split
  · rfl
  · cases call.told reporter none with
    | none => rfl
    | some description =>
        dsimp only [raise, Reporter.dispatch, Reporter.adrift]
        split
        · rfl
        · rfl

theorem call_settings (call : Call) (reporter : Reporter) (context : Option Context) :
    (call.outcome reporter context).2.options = reporter.options ∧
      (call.outcome reporter context).2.policy = reporter.policy := by
  cases call with
  | report r =>
      obtain ⟨options, policy⟩ := load_settings reporter context
      unfold Call.outcome Reporter.report
      dsimp only
      split
      · exact ⟨rfl, rfl⟩
      · split
        · exact ⟨options, policy⟩
        · exact ⟨options, policy⟩
  | handle description => exact ⟨rfl, rfl⟩
  | handleWith description severity => exact ⟨rfl, rfl⟩

structure Call.Raises (call : Call) (reporter : Reporter) (context : Context)
    (description : Description) : Prop where
  loud : (call.severity reporter.options).isIgnored = false
  told : call.told reporter (some context) = some description

-- A reporter that ignores all errors still lets failures of the compiler itself pass.
def Reports (reporter : Reporter) (severity : Severity) : Prop :=
  reporter.policy = .ignoreAll → severity.contains .internalError = true

inductive Call.Fate (call : Call) (reporter : Reporter) (context : Context) : Outcome → Prop where
  | quiet (reason : (call.severity reporter.options).isIgnored = true ∨
        call.told reporter (some context) = none) :
      Fate call reporter context (.silent (some context))
  | dropped (description : Description) (raised : call.Raises reporter context description)
      (refused : ¬ Reports reporter (call.severity reporter.options)) :
      Fate call reporter context (.silent (some
        (if (call.severity reporter.options).isMandatory then context.tagIgnored else context)))
  | suppressed (description : Description) (raised : call.Raises reporter context description)
      (passed : Reports reporter (call.severity reporter.options))
      (covered : reporter.suppresses context description.code (call.severity reporter.options)
        description.span = true) :
      Fate call reporter context (.silent (some context))
  | plain (description : Description) (raised : call.Raises reporter context description)
      (passed : Reports reporter (call.severity reporter.options))
      (bare : reporter.suppresses context description.code (call.severity reporter.options)
        description.span = false)
      (harmless : ((call.severity reporter.options).isError &&
        (call.severity reporter.options).isFatal) = false) :
      Fate call reporter context
        ⟨some context, some (Reporter.diagnose description (call.severity reporter.options)
          (some context.unit)), none⟩
  | fatal (description : Description) (raised : call.Raises reporter context description)
      (passed : Reports reporter (call.severity reporter.options))
      (bare : reporter.suppresses context description.code (call.severity reporter.options)
        description.span = false)
      (harmful : ((call.severity reporter.options).isError &&
        (call.severity reporter.options).isFatal) = true) :
      Fate call reporter context
        ⟨some context.tagErrors, some (Reporter.diagnose description (call.severity reporter.options)
            (some context.unit)),
          (Reporter.stopExtent? reporter.policy (call.severity reporter.options) context.scope).map
            (⟨·, Reporter.diagnose description (call.severity reporter.options) (some context.unit)⟩)⟩

theorem call_fate (call : Call) (reporter : Reporter) (context : Context) :
    call.Fate reporter context (call.outcome reporter (some context)).1 := by
  rw [call_outcome]
  split
  · rename_i ignored
    exact .quiet (.inl ignored)
  · rename_i loud
    cases told : call.told reporter (some context) with
    | none => exact .quiet (.inr told)
    | some description =>
        have raised : call.Raises reporter context description := ⟨by simpa using loud, told⟩
        dsimp only [raise, Reporter.dispatch]
        split
        · rename_i refused
          refine .dropped description raised fun passed => ?_
          rw [passed refused.1] at refused
          cases refused.2
        · rename_i accepted
          have passed : Reports reporter (call.severity reporter.options) := by
            intro ignoring
            simpa [ignoring] using accepted
          split
          · rename_i covered
            exact .suppressed description raised passed covered
          · rename_i uncovered
            have bare := eq_false_of_ne_true uncovered
            unfold Reporter.recordIn
            dsimp only
            split
            · rename_i harmful
              exact .fatal description raised passed bare harmful
            · rename_i harmless
              exact .plain description raised passed bare (eq_false_of_ne_true harmless)

structure Call.Records (call : Call) (reporter : Reporter) (context : Context)
    (description : Description) : Prop where
  raised : call.Raises reporter context description
  passed : Reports reporter (call.severity reporter.options)
  bare : reporter.suppresses context description.code (call.severity reporter.options)
    description.span = false

theorem recorded_iff (call : Call) (reporter : Reporter) (context : Context) (diagnostic : Diagnostic) :
    (call.outcome reporter (some context)).1.recorded = some diagnostic ↔
      ∃ description, call.Records reporter context description ∧
        Reporter.diagnose description (call.severity reporter.options) (some context.unit) = diagnostic := by
  have one (description other : Description) (raised : call.Raises reporter context description)
      (again : call.Raises reporter context other) : other = description :=
    Option.some.inj (again.told.symm.trans raised.told)
  have fate := call_fate call reporter context
  generalize (call.outcome reporter (some context)).1 = outcome at fate ⊢
  cases fate with
  | quiet reason =>
      refine ⟨nofun, ?_⟩
      rintro ⟨description, records, _⟩
      rcases reason with ignored | untold
      · cases ignored.symm.trans records.raised.loud
      · cases untold.symm.trans records.raised.told
  | dropped description raised refused =>
      refine ⟨nofun, ?_⟩
      rintro ⟨_, records, _⟩
      exact absurd records.passed refused
  | suppressed description raised passed covered =>
      refine ⟨nofun, ?_⟩
      rintro ⟨other, records, _⟩
      obtain rfl := one description other raised records.raised
      cases covered.symm.trans records.bare
  | plain description raised passed bare harmless =>
      constructor
      · intro recorded
        exact ⟨description, ⟨raised, passed, bare⟩, Option.some.inj recorded⟩
      · rintro ⟨other, records, rfl⟩
        rw [one description other raised records.raised]
  | fatal description raised passed bare harmful =>
      constructor
      · intro recorded
        exact ⟨description, ⟨raised, passed, bare⟩, Option.some.inj recorded⟩
      · rintro ⟨other, records, rfl⟩
        rw [one description other raised records.raised]

def Call.isOwed (call : Call) (reporter : Reporter) (context : Context) : Bool :=
  let severity := call.severity reporter.options
  severity.isError && !severity.isOptional && !severity.isIgnored &&
    (call.told reporter (some context)).isSome

theorem raised_owed (call : Call) (reporter : Reporter) (context : Context) (description : Description)
    (raised : call.Raises reporter context description) :
    call.isOwed reporter context = (call.severity reporter.options).isMandatory := by
  simp [Call.isOwed, Severity.isMandatory, raised.loud, raised.told]

structure Call.Leaves (call : Call) (reporter : Reporter) (before after : Context) : Prop where
  unit : after.unit = before.unit
  errors : after.hasErrors = (before.hasErrors ||
    (call.outcome reporter (some before)).1.recorded.any Diagnostic.isFatalError)
  ignored : after.ignoredMandatory = true → before.ignoredMandatory = true ∨
    reporter.policy = .ignoreAll ∧ call.isOwed reporter before = true ∧
      (call.severity reporter.options).contains .internalError = false

theorem leaves_alone (call : Call) (reporter : Reporter) (before : Context)
    (silent : (call.outcome reporter (some before)).1.recorded = none) :
    call.Leaves reporter before before := by
  refine ⟨rfl, ?_, .inl⟩
  rw [silent]
  exact (Bool.or_false _).symm

theorem outcome_context (call : Call) (reporter : Reporter) (before : Context) :
    ∃ after, (call.outcome reporter (some before)).1.context = some after ∧
      call.Leaves reporter before after := by
  have fate := call_fate call reporter before
  -- The equation stays, for the flag for errors goes by what the outcome has recorded.
  generalize taken : (call.outcome reporter (some before)).1 = outcome at fate ⊢
  cases fate with
  | quiet reason =>
      exact ⟨before, rfl, leaves_alone call reporter before (congrArg Outcome.recorded taken)⟩
  | suppressed description raised passed covered =>
      exact ⟨before, rfl, leaves_alone call reporter before (congrArg Outcome.recorded taken)⟩
  | dropped description raised refused =>
      have alone := leaves_alone call reporter before (congrArg Outcome.recorded taken)
      have owed := raised_owed call reporter before description raised
      simp only [Reports, Classical.not_imp, Bool.not_eq_true] at refused
      cases mandatory : (call.severity reporter.options).isMandatory with
      | false => exact ⟨before, rfl, alone⟩
      | true =>
          exact ⟨before.tagIgnored, rfl, rfl, alone.errors,
            fun _ => .inr ⟨refused.1, owed.trans mandatory, refused.2⟩⟩
  | plain description raised passed bare harmless =>
      refine ⟨before, rfl, rfl, ?_, .inl⟩
      simp only [taken, Option.any_some, Diagnostic.isFatalError, Reporter.diagnose, harmless,
        Bool.or_false]
  | fatal description raised passed bare harmful =>
      refine ⟨before.tagErrors, rfl, rfl, ?_, .inl⟩
      simp only [taken, Option.any_some, Diagnostic.isFatalError, Reporter.diagnose, harmful,
        Bool.or_true]
      rfl

end Session

end JavaDiagnostics
