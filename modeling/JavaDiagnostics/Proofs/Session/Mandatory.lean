import JavaDiagnostics.Proofs.Session.Contexts

set_option autoImplicit false

namespace JavaDiagnostics

namespace Collection

end Collection

namespace Session

def owedBy (session : Session) : Event → List (Code × Severity)
  | .called call (some index) =>
      match session.contexts[index]? with
      | some context =>
          if call.isOwed session.reporter context then
            [(call.code, call.severity session.reporter.options)]
          else []
      | none => []
  | _ => []

def owed (session : Session) : List Event → List (Code × Severity)
  | [] => []
  | event :: rest => session.owedBy event ++ (session.step event).1.owed rest

end Session

end JavaDiagnostics
