import JavaDiagnostics.Proofs.Session.Calls

set_option autoImplicit false

namespace JavaDiagnostics.Session

theorem keep_reporter (session : Session) (recorded : Option Diagnostic) :
    (session.keep recorded).reporter = session.reporter := by
  cases recorded with
  | none => rfl
  | some diagnostic => rfl

theorem keep_contexts (session : Session) (recorded : Option Diagnostic) :
    (session.keep recorded).contexts = session.contexts := by
  cases recorded with
  | none => rfl
  | some diagnostic => rfl

def contextAfter (session : Session) (index : Nat) (context : Context) : Event → Context
  | .entered place scope => if place = index then context.enter scope else context
  | .tagged place => if place = index then context.tagErrors else context
  | .called call (some place) =>
      if place = index then
        ((call.outcome session.reporter (some context)).1.context).getD context
      else context
  | _ => context

theorem call_answer (session : Session) (call : Call) (index : Nat) (context : Context)
    (there : session.contexts[index]? = some context) :
    (session.step (.called call (some index))).2 =
      ⟨(call.outcome session.reporter (some context)).1.recorded,
        (call.outcome session.reporter (some context)).1.abort⟩ := by
  simp only [step, Session.call, at?, Option.bind_some, there]

theorem called_collection (session : Session) (call : Call) (place : Option Nat) :
    (session.step (.called call place)).1.collection =
      match (session.step (.called call place)).2.recorded with
      | some diagnostic => session.collection.add diagnostic diagnostic.mandatory
      | none => session.collection := by
  simp only [step, Session.call]
  cases (call.outcome session.reporter (session.at? place)).1.recorded with
  | some diagnostic => rfl
  | none => rfl

theorem replaced_at (contexts : List Context) (place index : Nat) (context : Context)
    (after : Option Context) (there : contexts[index]? = some context) :
    (replaced contexts (some place) after)[index]? =
      some (if place = index then after.getD context else context) := by
  have bound : index < contexts.length := (List.getElem?_eq_some_iff.mp there).1
  cases after with
  | none =>
      simp only [replaced, Option.getD_none, ite_self]
      exact there
  | some next =>
      simp only [replaced, Option.getD_some, List.getElem?_set]
      split
      · rename_i same
        simp [same ▸ bound]
      · exact there

theorem modified_at (contexts : List Context) (place index : Nat) (context : Context)
    (change : Context → Context) (there : contexts[index]? = some context) :
    (contexts.modify place change)[index]? =
      some (if place = index then change context else context) := by
  rw [List.getElem?_modify, there]
  rfl

theorem step_context (session : Session) (event : Event) (index : Nat) (context : Context)
    (there : session.contexts[index]? = some context) :
    (session.step event).1.contexts[index]? = some (session.contextAfter index context event) := by
  have bound : index < session.contexts.length := (List.getElem?_eq_some_iff.mp there).1
  cases event with
  | opened unit scope =>
      simp only [step, contextAfter, List.getElem?_append_left bound]
      exact there
  | entered place scope => exact modified_at session.contexts place index context _ there
  | tagged place => exact modified_at session.contexts place index context _ there
  | called call place =>
      simp only [step, Session.call, keep_contexts]
      cases place with
      | none => exact there
      | some place =>
          rw [replaced_at session.contexts place index context _ there]
          simp only [contextAfter]
          by_cases same : place = index
          · subst place
            simp only [at?, Option.bind_some, there]
          · simp only [if_neg same]
  | added diagnostic mandatory => exact there
  | sorted => exact there
  | cleared => exact there

theorem opened_context (session : Session) (unit : SourceUnit) (scope : Scope) :
    (session.step (.opened unit scope)).1.contexts[session.contexts.length]? =
      some (.opened unit scope) := by
  simp [step]

theorem step_context_new (session : Session) (event : Event) (index : Nat) (context : Context)
    (absent : session.contexts[index]? = none)
    (there : (session.step event).1.contexts[index]? = some context) :
    ∃ unit scope, event = .opened unit scope ∧ context = .opened unit scope := by
  have bound : session.contexts.length ≤ index := List.getElem?_eq_none_iff.mp absent
  cases event with
  | opened unit scope =>
      refine ⟨unit, scope, rfl, ?_⟩
      simp only [step, List.getElem?_append_right bound] at there
      have first := List.mem_of_getElem? there
      simpa using first
  | entered place scope =>
      simp [step, List.getElem?_modify, absent] at there
  | tagged place =>
      simp [step, List.getElem?_modify, absent] at there
  | called call place =>
      simp only [step, Session.call, keep_contexts, replaced] at there
      split at there
      · simp [bound] at there
      · rw [absent] at there
        cases there
  | added diagnostic mandatory =>
      simp only [step, absent] at there
      cases there
  | sorted =>
      simp only [step, absent] at there
      cases there
  | cleared =>
      simp only [step, absent] at there
      cases there

theorem step_settings (session : Session) (event : Event) :
    (session.step event).1.reporter.options = session.reporter.options ∧
      (session.step event).1.reporter.policy = session.reporter.policy := by
  cases event with
  | called call place =>
      simp only [step, Session.call, keep_reporter]
      exact call_settings call session.reporter (session.at? place)
  | opened unit scope => exact ⟨rfl, rfl⟩
  | entered place scope => exact ⟨rfl, rfl⟩
  | tagged place => exact ⟨rfl, rfl⟩
  | added diagnostic mandatory => exact ⟨rfl, rfl⟩
  | sorted => exact ⟨rfl, rfl⟩
  | cleared => exact ⟨rfl, rfl⟩

theorem run_settings (session : Session) (events : List Event) :
    (session.run events).1.reporter.options = session.reporter.options ∧
      (session.run events).1.reporter.policy = session.reporter.policy := by
  induction events generalizing session with
  | nil => exact ⟨rfl, rfl⟩
  | cons event rest ih =>
      obtain ⟨options, policy⟩ := step_settings session event
      obtain ⟨optionsLater, policyLater⟩ := ih (session.step event).1
      exact ⟨optionsLater.trans options, policyLater.trans policy⟩

def reached (options : Options) (policy : Policy) (limit : Nat) (events : List Event) : Session :=
  ((start (.new options policy) limit).run events).1

theorem reached_settings (options : Options) (policy : Policy) (limit : Nat) (events : List Event) :
    (reached options policy limit events).reporter.options = options ∧
      (reached options policy limit events).reporter.policy = policy :=
  run_settings (start (.new options policy) limit) events

end JavaDiagnostics.Session
