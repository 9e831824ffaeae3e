import JavaDiagnostics.Collection
import JavaDiagnostics.Reporting

/-!
Sessions: reports of one reporter, in any number of contexts, that all go into one collection.
-/

set_option autoImplicit false

namespace JavaDiagnostics

structure Session where
  reporter : Reporter
  /-- In the order in which they were opened. -/
  contexts : List Context
  collection : Collection
  /-- How many diagnostics reports have handed to the collection, kept or not. -/
  handed : Nat

namespace Session

def start (reporter : Reporter) (limit : Nat) : Session := ⟨reporter, [], .empty limit, 0⟩

-- Something reported: a finding, or a problem by its code with or without a severity of its own.
inductive Call where
  | report (report : Report)
  | handle (description : Description)
  | handleWith (description : Description) (severity : Severity)

-- Contexts are named by their place in the list.
inductive Event where
  | opened (unit : SourceUnit) (scope : Scope)
  | entered (place : Nat) (scope : Scope)
  | tagged (place : Nat)
  /-- A call that names no context that is there is made without one. -/
  | called (call : Call) (place : Option Nat)
  | added (diagnostic : Diagnostic) (mandatory : Bool)
  | sorted
  | cleared

structure Answer where
  recorded : Option Diagnostic
  abort : Option Abort

def Answer.none : Answer := ⟨Option.none, Option.none⟩

def Call.outcome (reporter : Reporter) (context : Option Context) : Call → Outcome × Reporter
  | report r => reporter.report context r
  | handle description => (reporter.handle context description, reporter)
  | handleWith description severity => (reporter.handleWith context description severity, reporter)

def at? (session : Session) (place : Option Nat) : Option Context :=
  place.bind fun index => session.contexts[index]?

def replaced (contexts : List Context) (place : Option Nat) (context : Option Context) : List Context :=
  match place, context with
  | some index, some context => contexts.set index context
  | _, _ => contexts

def keep (session : Session) (recorded : Option Diagnostic) : Session :=
  match recorded with
  | some diagnostic =>
      { session with
          collection := session.collection.add diagnostic diagnostic.mandatory
          handed := session.handed + 1 }
  | none => session

def call (session : Session) (call : Call) (place : Option Nat) : Session × Answer :=
  let (outcome, reporter) := call.outcome session.reporter (session.at? place)
  let contexts := replaced session.contexts place outcome.context
  ({ session with reporter, contexts }.keep outcome.recorded, ⟨outcome.recorded, outcome.abort⟩)

def step (session : Session) : Event → Session × Answer
  | .opened unit scope => ({ session with contexts := session.contexts ++ [.opened unit scope] }, .none)
  | .entered place scope =>
      ({ session with contexts := session.contexts.modify place (·.enter scope) }, .none)
  | .tagged place => ({ session with contexts := session.contexts.modify place (·.tagErrors) }, .none)
  | .called c place => session.call c place
  | .added diagnostic mandatory =>
      ({ session with collection := session.collection.add diagnostic mandatory }, .none)
  | .sorted => ({ session with collection := session.collection.sort }, .none)
  | .cleared => ({ session with collection := session.collection.clear }, .none)

def run (session : Session) : List Event → Session × List Answer
  | [] => (session, [])
  | event :: rest =>
      let (next, answer) := session.step event
      let (last, answers) := next.run rest
      (last, answer :: answers)

end Session

end JavaDiagnostics
