import JavaDiagnostics.Proofs.Session.Contexts

set_option autoImplicit false

namespace JavaDiagnostics

def Options.releveled (options : Options) (chosen : Irritant → Option Level) : Options := { options with chosen }

theorem severity_releveled (options : Options) (chosen : Irritant → Option Level) (code : Code)
    (same : ∀ irritant, code.irritant? = some irritant →
      (options.releveled chosen).level irritant = options.level irritant) :
    (options.releveled chosen).severityOf code = options.severityOf code := by
  have configured : (options.releveled chosen).configured code = options.configured code := by
    unfold Options.configured
    cases governed : code.irritant? with
    | none => rfl
    | some irritant =>
        simp only [Options.severity, same irritant governed]
        rfl
  unfold Options.severityOf
  rw [configured]
  rfl

theorem severity_of_ungoverned (options : Options) (irritant : Irritant) (level : Level) (code : Code)
    (free : code.irritant? ≠ some irritant) :
    (options.assign (.level irritant level)).severityOf code = options.severityOf code := by
  apply severity_releveled
  intro other governed
  have different : other ≠ irritant := fun same => free (same ▸ governed)
  simp [Options.level, Options.releveled, Options.replace, different]

theorem render_releveled (options : Options) (chosen : Irritant → Option Level) (code : Code)
    (anchor : Anchor) (scanner : Scanner) (finding : Finding) :
    finding.render (options.releveled chosen) code anchor scanner =
      finding.render options code anchor scanner := by
  cases finding <;> rfl

theorem describe_releveled (options : Options) (chosen : Irritant → Option Level) (scanner : Scanner)
    (report : Report) :
    report.describe? (options.releveled chosen) scanner = report.describe? options scanner := by
  unfold Report.describe?
  simp only [render_releveled]

def Reporter.releveled (reporter : Reporter) (chosen : Irritant → Option Level) : Reporter :=
  { reporter with options := reporter.options.releveled chosen }

theorem load_releveled (reporter : Reporter) (chosen : Irritant → Option Level) (context : Option Context) :
    (reporter.releveled chosen).load context = (reporter.load context).releveled chosen := by
  unfold Reporter.releveled
  rw [load_under, (load_settings reporter context).1]

theorem report_releveled (reporter : Reporter) (chosen : Irritant → Option Level) (context : Option Context)
    (report : Report)
    (same : (reporter.options.releveled chosen).severityOf report.code =
      reporter.options.severityOf report.code) :
    (reporter.releveled chosen).report context report =
      ((reporter.report context report).1, (reporter.report context report).2.releveled chosen) := by
  have severity : (reporter.releveled chosen).options.severityOf report.code =
      reporter.options.severityOf report.code := same
  have told : report.describe? ((reporter.load context).releveled chosen).options
      ((reporter.load context).releveled chosen).scanner =
        report.describe? (reporter.load context).options (reporter.load context).scanner :=
    describe_releveled (reporter.load context).options chosen (reporter.load context).scanner report
  simp only [Reporter.report, severity, load_releveled, told]
  split
  · rfl
  · cases (report.describe? (reporter.load context).options (reporter.load context).scanner).1 <;> rfl

namespace Session

theorem outcome_releveled (call : Call) (reporter : Reporter) (chosen : Irritant → Option Level)
    (context : Option Context)
    (same : call.severity (reporter.options.releveled chosen) = call.severity reporter.options) :
    call.outcome (reporter.releveled chosen) context =
      ((call.outcome reporter context).1, (call.outcome reporter context).2.releveled chosen) := by
  cases call with
  | report r => exact report_releveled reporter chosen context r same
  | handle description =>
      have severity : (reporter.releveled chosen).options.severityOf description.code =
        reporter.options.severityOf description.code := same
      simp only [Call.outcome, Reporter.handle, severity]
      rfl
  | handleWith description severity => rfl

def releveled (session : Session) (chosen : Irritant → Option Level) : Session :=
  { session with reporter := session.reporter.releveled chosen }

theorem keep_releveled (session : Session) (chosen : Irritant → Option Level) (recorded : Option Diagnostic) :
    (session.releveled chosen).keep recorded = (session.keep recorded).releveled chosen := by
  cases recorded <;> rfl

def Unmoved (options : Options) (chosen : Irritant → Option Level) (events : List Event) : Prop :=
  ∀ call place, .called call place ∈ events → call.severity (options.releveled chosen) = call.severity options

theorem step_releveled (session : Session) (chosen : Irritant → Option Level) (event : Event)
    (unmoved : Unmoved session.reporter.options chosen [event]) :
    (session.releveled chosen).step event =
      ((session.step event).1.releveled chosen, (session.step event).2) := by
  cases event with
  | called c place =>
      have outcome : c.outcome (session.releveled chosen).reporter ((session.releveled chosen).at? place) =
          ((c.outcome session.reporter (session.at? place)).1,
            (c.outcome session.reporter (session.at? place)).2.releveled chosen) :=
        outcome_releveled c session.reporter chosen (session.at? place) (unmoved c place List.mem_cons_self)
      simp only [step, call, outcome, ← keep_releveled]
      rfl
  | _ => rfl

theorem run_releveled (session : Session) (chosen : Irritant → Option Level) (events : List Event)
    (unmoved : Unmoved session.reporter.options chosen events) :
    (session.releveled chosen).run events =
      ((session.run events).1.releveled chosen, (session.run events).2) := by
  induction events generalizing session with
  | nil => rfl
  | cons event rest ih =>
      have here := step_releveled session chosen event fun c place member =>
        unmoved c place (List.mem_singleton.mp member ▸ List.mem_cons_self)
      have later := ih (session.step event).1 (by
        rw [(step_settings session event).1]
        exact fun c place member => unmoved c place (List.mem_cons_of_mem event member))
      simp only [run, here, later]

theorem severity_ungoverned (options : Options) (irritant : Irritant) (level : Level) (call : Call)
    (free : call.code.irritant? ≠ some irritant) :
    call.severity (options.assign (.level irritant level)) = call.severity options := by
  have kept := severity_of_ungoverned options irritant level call.code free
  cases call with
  | report r => exact kept
  | handle description => exact kept
  | handleWith description severity => rfl

theorem level_governs_own (reporter : Reporter) (irritant : Irritant) (level : Level)
    (context : Option Context) (call : Call) (free : call.code.irritant? ≠ some irritant) :
    let other : Reporter := { reporter with options := reporter.options.assign (.level irritant level) }
    (call.outcome other context).1 = (call.outcome reporter context).1 ∧
      other.options.classify call.code = reporter.options.classify call.code ∧
      ∀ (limit : Nat) (events : List Event),
        (∀ c place, .called c place ∈ events → c.code.irritant? ≠ some irritant) →
        let before := (start reporter limit).run events
        let after := (start other limit).run events
        after.2 = before.2 ∧ after.1.contexts = before.1.contexts ∧
          after.1.collection = before.1.collection ∧ after.1.handed = before.1.handed := by
  intro other
  let chosen := Options.replace reporter.options.chosen irritant (some level)
  have severity := severity_ungoverned reporter.options irritant level
  refine ⟨?_, ?_, ?_⟩
  · have same : call.outcome other context =
        ((call.outcome reporter context).1, (call.outcome reporter context).2.releveled chosen) :=
      outcome_releveled call reporter chosen context (severity call free)
    rw [same]
  · have kept : other.options.severityOf call.code = reporter.options.severityOf call.code :=
      severity_of_ungoverned reporter.options irritant level call.code free
    simp only [Options.classify, kept]
  · intro limit events ungoverned before after
    have same : after = (before.1.releveled chosen, before.2) :=
      run_releveled (start reporter limit) chosen events fun c place member =>
        severity c (ungoverned c place member)
    rw [same]
    exact ⟨rfl, rfl, rfl, rfl⟩

theorem other_level_unnoticed :
    let reporter := Reporter.new .usual .stopAtFirst
    let strict : Reporter := { reporter with options := reporter.options.assign (.level .unusedImport .error) }
    let unused : Call := .handle ⟨.unusedLocal, ["x"], ["x"], ⟨14, 14⟩⟩
    let context := Context.opened (.ofText "A.java" 0 "class A { int x; }") .type
    unused.code.irritant? = some .unusedLocalVariable ∧
      (unused.outcome strict (some context)).1 = (unused.outcome reporter (some context)).1 ∧
      strict.options.severityOf .unusedImport ≠ reporter.options.severityOf .unusedImport := by
  intro reporter strict unused context
  have governed : unused.code.irritant? = some .unusedLocalVariable := by decide
  have free : unused.code.irritant? ≠ some .unusedImport := by
    rw [governed]
    decide
  exact ⟨governed, (level_governs_own reporter .unusedImport .error (some context) unused free).1, by decide⟩

end Session

end JavaDiagnostics
