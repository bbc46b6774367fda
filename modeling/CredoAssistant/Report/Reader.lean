import CredoAssistant.Json.Reader
import CredoAssistant.Json.Writer
import CredoAssistant.Report.Issue
import CredoAssistant.Text.Blank

/-!
Reading the report that the linter prints: a JSON object with a list of issues.
-/
namespace CredoAssistant

/-- Why a printed text is not a report. -/
inductive ReportFlaw
  | notJson (cause : Json.Cause) (left : Nat)
  | notObject
  | noIssueList
  | malformedIssue (index : Nat) (rejection : Rejection)
  deriving DecidableEq, Repr

/-- A flaw and the whole text it was found in. -/
structure ReportError where
  flaw : ReportFlaw
  output : String
  deriving DecidableEq, Repr

namespace ReportError

/-- The text of an error, with refused values told as `quote` does. -/
def messageWith (quote : Echo → String) (e : ReportError) : String :=
  match e.flaw with
  | .notJson cause left =>
    s!"Credo output is not valid JSON: {Json.located cause e.output.toList left}"
  | .notObject => "Credo output must be a JSON object"
  | .noIssueList => "Credo output is missing the 'issues' list"
  | .malformedIssue index rejection =>
    s!"Credo issue #{index} is malformed: {rejection.messageWith quote}"

def message (e : ReportError) : String := e.messageWith Echo.message

/-- At most 200 characters of the output, for display beside the message. -/
def excerpt (e : ReportError) : String := Text.excerpt 200 e.output

end ReportError

/-- Reading a report fails with a flaw of the report, at an integer literal that is too long to be
converted, or at a bracket that the stack has no room for. -/
inductive ReadFailure
  | flawed (error : ReportError)
  | oversizedInteger (digits : Nat)
  | tooDeep (bracket : Json.Bracket)
  deriving DecidableEq, Repr

/-- An integer literal with more digits than are converted. -/
def oversizedMessage (digits : Nat) : String :=
  s!"Exceeds the limit (4300 digits) for integer string conversion: value has {digits} digits; "
    ++ "use sys.set_int_max_str_digits() to increase the limit"

/-- A bracket that opens more levels than the stack has room for. -/
def depthMessage (bracket : Json.Bracket) : String :=
  s!"maximum recursion depth exceeded while decoding a JSON {bracket.name} from a unicode string"

namespace Report

/-- Reads the issues in order, up to the first one that is malformed; `i` numbers them. -/
def readIssues (i : Nat) : List Value → Except ReportFlaw (List Issue)
  | [] => .ok []
  | v :: rest =>
    match Issue.ofValue v with
    | .error r => .error (.malformedIssue i r)
    | .ok issue =>
      match readIssues (i + 1) rest with
      | .error f => .error f
      | .ok issues => .ok (issue :: issues)

/-- The issues of a decoded report. -/
def ofValue : Value → Except ReportFlaw (List Issue)
  | .object ms =>
    match Entries.get? "issues" ms with
    | some (.list items) => readIssues 0 items
    | _ => .error .noIssueList
  | _ => .error .notObject

/-- The issues of a printed report. -/
def read (stack : Stack) (output : String) : Except ReadFailure (List Issue) :=
  match Json.read stack output.toList with
  | .error (.malformed cause left) => .error (.flawed ⟨.notJson cause left, output⟩)
  | .error (.oversizedInteger digits) => .error (.oversizedInteger digits)
  | .error (.tooDeep bracket) => .error (.tooDeep bracket)
  | .ok v =>
    match ofValue v with
    | .error flaw => .error (.flawed ⟨flaw, output⟩)
    | .ok issues => .ok issues

/-- The report that lists `issues`. -/
def write (issues : List Issue) : String :=
  Json.render .line (.object [("issues", .list (issues.map Issue.toValue))])

end Report

end CredoAssistant
