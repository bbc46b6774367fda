import CredoAssistant.Diagnostic.Basic
import CredoAssistant.Report.Issue

/-!
From issues to diagnostics. All issues map or none does.
-/
namespace CredoAssistant.Diagnostic

/-- The end of the span: the reported one unless it is missing or zero, else the start. -/
def endColumnOf (i : Issue) : Option Int :=
  match i.columnEnd with
  | some c => if c = 0 then i.column else some c
  | none => i.column

/-- The diagnostic of an issue. -/
def ofIssue (i : Issue) : Except MappingError Diagnostic :=
  match Severity.ofValue (.int i.priority) i.check with
  | .error e => .error e
  | .ok severity =>
    .ok
      { code := i.category
        message := i.message
        severity
        source := sourceLabel
        line := i.line
        column := i.column
        endLine := i.line
        endColumn := endColumnOf i
        check := some i.check
        file := if i.filename = "" then none else some i.filename }

/-- The diagnostics of the issues in order, or the first mapping error. -/
def ofIssues : List Issue → Except MappingError (List Diagnostic)
  | [] => .ok []
  | i :: rest =>
    match ofIssue i with
    | .error e => .error e
    | .ok d =>
      match ofIssues rest with
      | .error e => .error e
      | .ok ds => .ok (d :: ds)

end CredoAssistant.Diagnostic
