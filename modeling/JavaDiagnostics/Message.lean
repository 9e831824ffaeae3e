import JavaDiagnostics.Catalog
import JavaDiagnostics.Text.Template

/-!
Messages of problems: the template of the code with the arguments in its slots, behind a lead for doc
comments. A code without a template has a message that only names it.
-/

set_option autoImplicit false

namespace JavaDiagnostics.Code

def lead : String := (template? .javadocLead).getD "Javadoc: "

def message (code : Code) (arguments : List String) : String :=
  match code.template? with
  | none => "Undefined problem (" ++ code.label ++ ")"
  | some template =>
      let body := Text.Template.fill template arguments
      if code.belongsTo .javadoc then lead ++ body else body

end JavaDiagnostics.Code
