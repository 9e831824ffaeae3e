import JavaDiagnostics.Proofs.Session.Contexts

set_option autoImplicit false

namespace JavaDiagnostics

theorem wider_rank (a b : Extent) : (a.wider b).rank ≤ b.rank := by
  unfold Extent.wider
  split
  · rename_i ordered
    exact ordered
  · exact Nat.le_refl b.rank

theorem abort_extent_wide (severity : Severity) (scope : Scope) (extent : Extent)
    (given : Reporter.abortExtent? severity scope = some extent) :
    severity.abortPart.bits ≠ 0 ∧ extent.rank ≤ scope.extent.rank := by
  unfold Reporter.abortExtent? at given
  by_cases spared : severity.abortPart.bits = 0
  · rw [if_pos spared] at given
    cases given
  · rw [if_neg spared] at given
    refine ⟨spared, ?_⟩
    cases named : Extent.ofSeverity? severity with
    | none =>
        rw [named] at given
        obtain rfl := Option.some.inj given
        exact Nat.le_refl scope.extent.rank
    | some single =>
        rw [named] at given
        obtain rfl := Option.some.inj given
        exact wider_rank single scope.extent

theorem stop_extent_cases (policy : Policy) (severity : Severity) (scope : Scope) (extent : Extent)
    (given : Reporter.stopExtent? policy severity scope = some extent) :
    (policy = .stopAtFirst → extent = .compilation) ∧
      (policy ≠ .stopAtFirst → severity.abortPart.bits ≠ 0 ∧ extent.rank ≤ scope.extent.rank) := by
  unfold Reporter.stopExtent? at given
  by_cases stopping : policy = .stopAtFirst
  · rw [if_pos stopping] at given
    exact ⟨fun _ => (Option.some.inj given).symm, fun going => absurd stopping going⟩
  · rw [if_neg stopping] at given
    exact ⟨fun stops => absurd stops stopping, fun _ => abort_extent_wide severity scope extent given⟩

namespace Session

theorem outcome_abort (call : Call) (reporter : Reporter) (context : Context) (abort : Abort)
    (aborted : (call.outcome reporter (some context)).1.abort = some abort) :
    (call.outcome reporter (some context)).1.recorded = some abort.diagnostic ∧
      abort.diagnostic.isFatalError = true ∧
      Reporter.stopExtent? reporter.policy abort.diagnostic.severity context.scope =
        some abort.extent := by
  have fate := call_fate call reporter context
  generalize (call.outcome reporter (some context)).1 = outcome at fate aborted ⊢
  cases fate with
  | quiet reason => cases aborted
  | dropped description raised refused => cases aborted
  | suppressed description raised passed covered => cases aborted
  | plain description raised passed bare harmless => cases aborted
  | fatal description raised passed bare harmful =>
      obtain ⟨extent, given, rfl⟩ := Option.map_eq_some_iff.mp aborted
      exact ⟨rfl, harmful, given⟩

theorem outcome_stops (call : Call) (reporter : Reporter) (context : Option Context)
    (diagnostic : Diagnostic) (policy : reporter.policy = .stopAtFirst)
    (recorded : (call.outcome reporter context).1.recorded = some diagnostic)
    (fatal : diagnostic.isFatalError = true) :
    (call.outcome reporter context).1.abort ≠ none := by
  cases context with
  | none =>
      rw [adrift_records_nothing] at recorded
      cases recorded
  | some context =>
      have fate := call_fate call reporter context
      generalize (call.outcome reporter (some context)).1 = outcome at fate recorded ⊢
      cases fate with
      | quiet reason => cases recorded
      | dropped description raised refused => cases recorded
      | suppressed description raised passed covered => cases recorded
      | plain description raised passed bare harmless =>
          obtain rfl := Option.some.inj recorded
          simp only [Diagnostic.isFatalError, Reporter.diagnose, harmless] at fatal
          cases fatal
      | fatal description raised passed bare harmful =>
          simp only [Reporter.stopExtent?, policy, if_pos, Option.map_some]
          exact Option.some_ne_none _

def Event.isCallIn (place : Nat) : Event → Bool
  | .called _ (some index) => index = place
  | _ => false

def heard (session : Session) (place : Nat) (events : List Event) : List Answer :=
  ((events.zip (session.run events).2).filter fun (event, _) => event.isCallIn place).map (·.2)

def recordedIn (session : Session) (place : Nat) (events : List Event) : List Diagnostic :=
  (session.heard place events).filterMap (·.recorded)

theorem heard_cons (session : Session) (place : Nat) (event : Event) (rest : List Event) :
    session.heard place (event :: rest) =
      (if event.isCallIn place then [(session.step event).2] else []) ++
        (session.step event).1.heard place rest := by
  simp only [heard, run, List.zip_cons_cons, List.filter_cons]
  split
  · rfl
  · rfl

def recordedBy (session : Session) (place : Nat) (event : Event) : List Diagnostic :=
  if event.isCallIn place then (session.step event).2.recorded.toList else []

theorem recorded_cons (session : Session) (place : Nat) (event : Event) (rest : List Event) :
    session.recordedIn place (event :: rest) =
      session.recordedBy place event ++ (session.step event).1.recordedIn place rest := by
  simp only [recordedIn, heard_cons, List.filterMap_append, recordedBy]
  split
  · cases recorded : (session.step event).2.recorded with
    | none => simp only [List.filterMap_cons, recorded, List.filterMap_nil, Option.toList_none]
    | some diagnostic =>
        simp only [List.filterMap_cons, recorded, List.filterMap_nil, Option.toList_some]
  · rfl

theorem call_recorded (session : Session) (call : Call) (index : Nat) (context : Context)
    (there : session.contexts[index]? = some context) :
    session.recordedBy index (.called call (some index)) =
      (call.outcome session.reporter (some context)).1.recorded.toList := by
  simp only [recordedBy, Event.isCallIn, decide_true, if_true,
    call_answer session call index context there]

theorem step_errors (session : Session) (event : Event) (index : Nat) (context : Context)
    (there : session.contexts[index]? = some context) :
    (session.contextAfter index context event).hasErrors = true ↔
      context.hasErrors = true ∨ event = .tagged index ∨
        (session.recordedBy index event).any Diagnostic.isFatalError = true := by
  cases event with
  | called call place =>
      cases place with
      | none => simp [contextAfter, recordedBy, Event.isCallIn]
      | some place =>
          by_cases same : place = index
          · subst place
            obtain ⟨after, became, leaves⟩ := outcome_context call session.reporter context
            rw [call_recorded session call index context there]
            simp [contextAfter, became, leaves.errors, Option.any_eq_true]
          · simp [contextAfter, recordedBy, Event.isCallIn, same]
  | tagged place =>
      by_cases same : place = index
      · subst place
        simp [contextAfter, Context.tagErrors]
      · simp [contextAfter, recordedBy, Event.isCallIn, same]
  | entered place scope =>
      by_cases same : place = index
      · simp [contextAfter, recordedBy, Event.isCallIn, same, Context.enter]
      · simp [contextAfter, recordedBy, Event.isCallIn, same]
  | opened unit scope => simp [contextAfter, recordedBy, Event.isCallIn]
  | added diagnostic mandatory => simp [contextAfter, recordedBy, Event.isCallIn]
  | sorted => simp [contextAfter, recordedBy, Event.isCallIn]
  | cleared => simp [contextAfter, recordedBy, Event.isCallIn]

theorem run_errors (session : Session) (events : List Event) (index : Nat) (context : Context)
    (there : session.contexts[index]? = some context) :
    ∃ after, (session.run events).1.contexts[index]? = some after ∧
      (after.hasErrors = true ↔ context.hasErrors = true ∨ .tagged index ∈ events ∨
        (session.recordedIn index events).any Diagnostic.isFatalError = true) := by
  induction events generalizing session context with
  | nil => exact ⟨context, there, by simp [recordedIn, heard]⟩
  | cons event rest ih =>
      obtain ⟨after, last, later⟩ :=
        ih (session.step event).1 _ (step_context session event index context there)
      refine ⟨after, last, ?_⟩
      rw [later, step_errors session event index context there, recorded_cons, List.any_append,
        Bool.or_eq_true, List.mem_cons, eq_comm]
      -- Both sides have the same alternatives, those of the first event and those of the rest.
      grind

theorem heard_stops (session : Session) (place : Nat) (events : List Event) (answer : Answer)
    (diagnostic : Diagnostic) (policy : session.reporter.policy = .stopAtFirst)
    (member : answer ∈ session.heard place events) (recorded : answer.recorded = some diagnostic)
    (fatal : diagnostic.isFatalError = true) : answer.abort ≠ none := by
  induction events generalizing session with
  | nil => cases member
  | cons event rest ih =>
      rw [heard_cons, List.mem_append] at member
      rcases member with here | later
      · cases event with
        | called call index =>
            -- The place may name no context that is there; then nothing has been recorded.
            split at here
            · obtain rfl := List.mem_singleton.mp here
              exact outcome_stops call session.reporter _ diagnostic policy recorded fatal
            · cases here
        | opened unit scope => cases here
        | entered index scope => cases here
        | tagged index => cases here
        | added other mandatory => cases here
        | sorted => cases here
        | cleared => cases here
      · exact ih (session.step event).1 ((step_settings session event).2.trans policy) later

theorem before_last_recorded (answers : List Answer) (diagnostic : Diagnostic)
    (member : diagnostic ∈ (answers.filterMap (·.recorded)).dropLast) :
    ∃ answer ∈ answers.dropLast, answer.recorded = some diagnostic := by
  rcases List.eq_nil_or_concat answers with empty | ⟨front, last, split⟩
  · subst answers
    cases member
  · rw [List.concat_eq_append] at split
    subst answers
    rw [List.filterMap_append] at member
    rw [List.dropLast_concat]
    have front_member : diagnostic ∈ front.filterMap (·.recorded) := by
      cases recorded : last.recorded with
      | none =>
          simp only [List.filterMap_cons, recorded, List.filterMap_nil, List.append_nil] at member
          exact List.dropLast_subset _ member
      | some final =>
          simp only [List.filterMap_cons, recorded, List.filterMap_nil, List.dropLast_concat] at member
          exact member
    exact List.mem_filterMap.mp front_member

theorem call_abort (session : Session) (call : Call) (index : Nat) (context : Context) (abort : Abort)
    (there : session.contexts[index]? = some context)
    (aborted : (session.step (.called call (some index))).2.abort = some abort) :
    (session.step (.called call (some index))).2.recorded = some abort.diagnostic ∧
      abort.diagnostic.isFatalError = true ∧
      (∃ after, (session.step (.called call (some index))).1.contexts[index]? = some after ∧
        after.hasErrors = true) ∧
      Reporter.stopExtent? session.reporter.policy abort.diagnostic.severity context.scope =
        some abort.extent := by
  have raised := step_errors session (.called call (some index)) index context there
  have reached := step_context session (.called call (some index)) index context there
  rw [call_recorded session call index context there] at raised
  rw [call_answer session call index context there] at aborted ⊢
  obtain ⟨recorded, fatal, extent⟩ := outcome_abort call session.reporter context abort aborted
  refine ⟨recorded, fatal, ⟨_, reached, raised.mpr (.inr (.inr ?_))⟩, extent⟩
  rw [recorded, Option.toList_some, List.any_cons, fatal, Bool.true_or]

theorem aborts_agree_with_records (options : Options) (policy : Policy) (limit : Nat)
    (before : List Event) (unit : SourceUnit) (scope : Scope) (events : List Event) :
    let earlier := reached options policy limit before
    let place := earlier.contexts.length
    let opened := (earlier.step (.opened unit scope)).1
    let session := (opened.run events).1
    ∃ context, session.contexts[place]? = some context ∧
      (∀ (call : Call) (abort : Abort),
        (session.step (.called call (some place))).2.abort = some abort →
        (session.step (.called call (some place))).2.recorded = some abort.diagnostic ∧
        abort.diagnostic.severity.isError = true ∧ abort.diagnostic.severity.isFatal = true ∧
        (∃ after, (session.step (.called call (some place))).1.contexts[place]? = some after ∧
          after.hasErrors = true) ∧
        (policy = .stopAtFirst → abort.extent = .compilation) ∧
        (policy ≠ .stopAtFirst → abort.diagnostic.severity.abortPart.bits ≠ 0 ∧
          abort.extent.rank ≤ context.scope.extent.rank)) ∧
      (context.hasErrors = true ↔ .tagged place ∈ events ∨
        ∃ diagnostic ∈ opened.recordedIn place events,
          diagnostic.severity.isError = true ∧ diagnostic.severity.isFatal = true) ∧
      (policy = .stopAtFirst →
        (∀ answer ∈ (opened.heard place events).dropLast, answer.abort = none) →
        ∀ diagnostic ∈ (opened.recordedIn place events).dropLast,
          ¬ (diagnostic.severity.isError = true ∧ diagnostic.severity.isFatal = true)) := by
  intro earlier place opened session
  have settled : opened.reporter.policy = policy := by
    rw [(step_settings earlier _).2]
    exact (reached_settings options policy limit before).2
  have kept : session.reporter.policy = policy := (run_settings opened events).2.trans settled
  obtain ⟨context, there, errors⟩ :=
    run_errors opened events place _ (opened_context earlier unit scope)
  refine ⟨context, there, ?_, ?_, ?_⟩
  · intro call abort aborted
    obtain ⟨recorded, fatal, flagged, extent⟩ :=
      call_abort session call place context abort there aborted
    obtain ⟨error, harmful⟩ := Bool.and_eq_true_iff.mp fatal
    rw [kept] at extent
    exact ⟨recorded, error, harmful, flagged, stop_extent_cases policy _ context.scope _ extent⟩
  · rw [errors, List.any_eq_true]
    simp [Context.opened, Diagnostic.isFatalError]
  · intro stopping patient diagnostic member fatal
    obtain ⟨answer, answered, recorded⟩ := before_last_recorded _ diagnostic member
    have aborted := heard_stops opened place events answer diagnostic (settled.trans stopping)
      (List.dropLast_subset _ answered) recorded (Bool.and_eq_true_iff.mpr fatal)
    exact aborted (patient answer answered)

-- A fatal error that gives up a type, met in a method.
theorem fatal_error_aborts :
    let unit := SourceUnit.ofText "A.java" 0 "class A { }"
    let description : Description := ⟨.undefinedType, ["B"], ["B"], ⟨6, 6⟩⟩
    let severity : Severity := .error ||| .fatal ||| .abortType
    let call := Call.handleWith description severity
    let going := ((reached .usual .proceed 0 []).step (.opened unit .unit)).1
    let stopping := ((reached .usual .stopAtFirst 0 []).step (.opened unit .unit)).1
    let inside := (going.run [.entered 0 .method]).1
    (∃ (context : Context) (abort : Abort), inside.contexts[0]? = some context ∧ context.hasErrors = false ∧
        (inside.step (.called call (some 0))).2.recorded = some abort.diagnostic ∧
        abort.extent.rank ≤ context.scope.extent.rank) ∧
      ∀ diagnostic ∈ (stopping.recordedIn 0 [.called call (some 0)]).dropLast,
        ¬ (diagnostic.severity.isError = true ∧ diagnostic.severity.isFatal = true) := by
  intro unit description severity call going stopping inside
  obtain ⟨context, there, aborts, errors, _⟩ :=
    aborts_agree_with_records .usual .proceed 0 [] unit .unit [.entered 0 .method]
  obtain ⟨_, _, _, _, last⟩ :=
    aborts_agree_with_records .usual .stopAtFirst 0 [] unit .unit [.called call (some 0)]
  obtain ⟨abort, aborted⟩ :
      ∃ abort, (inside.step (.called call (some 0))).2.abort = some abort :=
    Option.isSome_iff_exists.mp (by decide)
  obtain ⟨recorded, _, _, _, _, wide⟩ := aborts call abort aborted
  refine ⟨⟨context, abort, there, ?_, recorded, (wide (by decide)).2⟩, last rfl ?_⟩
  · apply eq_false_of_ne_true
    intro flagged
    rcases errors.mp flagged with tagged | ⟨diagnostic, member, _⟩
    · simp at tagged
    · cases member
  · intro answer member
    cases member

end Session

end JavaDiagnostics
