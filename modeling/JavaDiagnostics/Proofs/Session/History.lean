import JavaDiagnostics.Proofs.Session.Contexts

/-!
What a reporter keeps from one call to the next does not show: the text in its scanner is that of the unit
it names, and a call that finds another unit there loads its own.
-/

set_option autoImplicit false

namespace JavaDiagnostics

namespace Reporter

-- Of the cache only this is needed: where the scanner was left plays no part in what it is asked next.
inductive Loaded (units : List SourceUnit) (reporter : Reporter) : Prop where
  | nothing (unnamed : reporter.loaded = none) (bare : reporter.scanner.source = #[])
  | text (unit : SourceUnit) (member : unit ∈ units) (named : reporter.loaded = some unit.identity)
      (held : reporter.scanner.source = unit.text.toArray)

theorem new_loaded (units : List SourceUnit) (options : Options) (policy : Policy) :
    (Reporter.new options policy).Loaded units := .nothing rfl rfl

theorem load_loaded (units : List SourceUnit) (reporter : Reporter) (context : Option Context)
    (loaded : reporter.Loaded units) (known : ∀ here, context = some here → here.unit ∈ units) :
    (reporter.load context).Loaded units := by
  unfold load
  dsimp only
  split
  · exact loaded
  · cases context with
    | none => exact .nothing rfl rfl
    | some here => exact .text here.unit (known here rfl) rfl rfl

theorem loaded_source (units : List SourceUnit) (reporter : Reporter) (scanner : Scanner)
    (loaded : reporter.Loaded units) (same : scanner.source = reporter.scanner.source) :
    ({ reporter with scanner } : Reporter).Loaded units := by
  cases loaded with
  | nothing unnamed bare => exact .nothing unnamed (same.trans bare)
  | text unit member named held => exact .text unit member named (same.trans held)

def Apart (units : List SourceUnit) (context : Option Context) : Prop :=
  ∀ unit ∈ units, ∀ here, context = some here → unit.identity = here.unit.identity →
    unit.text = here.unit.text

theorem load_text (units : List SourceUnit) (reporter : Reporter) (context : Option Context)
    (loaded : reporter.Loaded units) (apart : Apart units context) :
    (reporter.load context).scanner.source = ((context.map (·.unit.text)).getD []).toArray := by
  unfold load
  dsimp only
  split
  · rename_i wanted
    cases context with
    | none =>
        cases loaded with
        | nothing unnamed bare => exact bare
        | text unit member named held =>
            rw [named] at wanted
            cases wanted
    | some here =>
        cases loaded with
        | nothing unnamed bare =>
            rw [unnamed] at wanted
            cases wanted
        | text unit member named held =>
            -- The text in the scanner may be that of another unit which looks the same from outside.
            rw [named] at wanted
            rw [held, apart unit member here rfl (Option.some.inj wanted).symm]
            rfl
  · rfl

end Reporter

namespace Session

theorem raise_settings (a b : Reporter) (context : Option Context) (severity : Severity)
    (told : Option Description) (options : a.options = b.options) (policy : a.policy = b.policy) :
    raise a context severity told = raise b context severity told := by
  cases told with
  | none => rfl
  | some description => exact dispatch_settings a b context description severity options policy

theorem told_same (call : Call) (units : List SourceUnit) (reporter fresh : Reporter)
    (context : Option Context) (options : reporter.options = fresh.options)
    (loaded : reporter.Loaded units) (unused : fresh.Loaded []) (apart : Reporter.Apart units context) :
    call.told reporter context = call.told fresh context := by
  cases call with
  | report r =>
      have same : (reporter.load context).scanner.source = (fresh.load context).scanner.source := by
        rw [Reporter.load_text units reporter context loaded apart]
        exact (Reporter.load_text [] fresh context unused (by simp [Reporter.Apart])).symm
      dsimp only [Call.told]
      rw [options]
      exact (describe_tells fresh.options r).reads.answer _ _ same
  | handle description => rfl
  | handleWith description severity => rfl

theorem call_loaded (call : Call) (units : List SourceUnit) (reporter : Reporter)
    (context : Option Context) (loaded : reporter.Loaded units)
    (known : ∀ here, context = some here → here.unit ∈ units) :
    (call.outcome reporter context).2.Loaded units := by
  cases call with
  | report r =>
      have ready := Reporter.load_loaded units reporter context loaded known
      have kept := (describe_tells (reporter.load context).options r).reads.source
      unfold Call.outcome Reporter.report
      dsimp only
      split
      · exact loaded
      · split
        · exact Reporter.loaded_source units _ _ ready (kept _)
        · exact Reporter.loaded_source units _ _ ready (kept _)
  | handle description => exact loaded
  | handleWith description severity => exact loaded

theorem context_after_unit (session : Session) (index : Nat) (context : Context) (event : Event) :
    (session.contextAfter index context event).unit = context.unit := by
  cases event with
  | called call place =>
      cases place with
      | none => rfl
      | some place =>
          simp only [contextAfter]
          split
          · obtain ⟨after, became, leaves⟩ := outcome_context call session.reporter context
            rw [became]
            exact leaves.unit
          · rfl
  | entered place scope =>
      simp only [contextAfter]
      split
      · rfl
      · rfl
  | tagged place =>
      simp only [contextAfter]
      split
      · rfl
      · rfl
  | opened unit scope => rfl
  | added diagnostic mandatory => rfl
  | sorted => rfl
  | cleared => rfl

structure Knows (units : List SourceUnit) (session : Session) : Prop where
  contexts : ∀ context ∈ session.contexts, context.unit ∈ units
  reporter : session.reporter.Loaded units

theorem step_knows (units : List SourceUnit) (session : Session) (event : Event)
    (knows : Knows units session)
    (opens : ∀ unit scope, event = .opened unit scope → unit ∈ units) :
    Knows units (session.step event).1 := by
  constructor
  · intro context member
    obtain ⟨index, there⟩ := List.mem_iff_getElem?.mp member
    cases present : session.contexts[index]? with
    | some before =>
        rw [step_context session event index before present] at there
        rw [← Option.some.inj there, context_after_unit]
        exact knows.contexts before (List.mem_of_getElem? present)
    | none =>
        obtain ⟨unit, scope, opened, rfl⟩ := step_context_new session event index context present there
        exact opens unit scope opened
  · cases event with
    | called call place =>
        simp only [step, Session.call, keep_reporter]
        apply call_loaded call units session.reporter _ knows.reporter
        intro here found
        obtain ⟨index, rfl, there⟩ := Option.bind_eq_some_iff.mp found
        exact knows.contexts here (List.mem_of_getElem? there)
    | opened unit scope => exact knows.reporter
    | entered place scope => exact knows.reporter
    | tagged place => exact knows.reporter
    | added diagnostic mandatory => exact knows.reporter
    | sorted => exact knows.reporter
    | cleared => exact knows.reporter

theorem run_knows (units : List SourceUnit) (session : Session) (events : List Event)
    (knows : Knows units session)
    (opens : ∀ unit scope, .opened unit scope ∈ events → unit ∈ units) :
    Knows units (session.run events).1 := by
  induction events generalizing session with
  | nil => exact knows
  | cons event rest ih =>
      have next := step_knows units session event knows fun unit scope here =>
        opens unit scope (here ▸ List.mem_cons_self)
      exact ih (session.step event).1 next fun unit scope later =>
        opens unit scope (List.mem_cons_of_mem event later)

def unitsOf (events : List Event) : List SourceUnit :=
  events.filterMap fun
    | .opened unit _ => some unit
    | _ => none

theorem opened_unit (events : List Event) (unit : SourceUnit) (scope : Scope)
    (member : .opened unit scope ∈ events) : unit ∈ unitsOf events :=
  List.mem_filterMap.mpr ⟨.opened unit scope, member, rfl⟩

theorem calls_ignore_history (options : Options) (policy : Policy) (limit : Nat) (before : List Event)
    (call : Call) (context : Option Context)
    (apart : ∀ unit ∈ unitsOf before, ∀ here, context = some here →
      unit.identity = here.unit.identity → unit.text = here.unit.text) :
    (call.outcome (reached options policy limit before).reporter context).1 =
      (call.outcome (.new options policy) context).1 := by
  have begun : Knows (unitsOf before) (start (.new options policy) limit) :=
    ⟨fun _ member => absurd member List.not_mem_nil, Reporter.new_loaded _ options policy⟩
  have knows : Knows (unitsOf before) (reached options policy limit before) :=
    run_knows (unitsOf before) (start (.new options policy) limit) before begun (opened_unit before)
  obtain ⟨sameOptions, samePolicy⟩ := reached_settings options policy limit before
  have told := told_same call (unitsOf before) (reached options policy limit before).reporter
    (.new options policy) context sameOptions knows.reporter
    (Reporter.new_loaded [] options policy) apart
  rw [call_outcome, call_outcome, told, sameOptions,
    raise_settings _ (.new options policy) context _ _ sameOptions samePolicy]
  rfl

-- Two units of one file name and length, as after an edit.
theorem report_follows_the_unit :
    let first := SourceUnit.ofText "A.java" 0 "List<A> a;"
    let second := SourceUnit.ofText "A.java" 1 "List<A<B>>"
    let report : Report := ⟨.undefinedType (.named .reference "java.util" ["List"]), .type ⟨0, 3⟩ true⟩
    let before : List Event :=
      [.opened first .unit, .called (.report report) (some 0), .opened second .unit]
    let context := Context.opened second .type
    first.identity ≠ second.identity ∧
      ((reached .usual .proceed 100 before).reporter.report (some context) report).1 =
        ((Reporter.new .usual .proceed).report (some context) report).1 := by
  intro first second report before context
  have differ : first.identity ≠ second.identity := by decide
  refine ⟨differ, calls_ignore_history .usual .proceed 100 before (.report report) (some context) ?_⟩
  intro unit member here found same
  obtain rfl := Option.some.inj found
  rcases List.mem_cons.mp member with one | rest
  · subst one
    exact absurd same differ
  · obtain rfl := List.mem_singleton.mp rest
    rfl

end Session

end JavaDiagnostics
