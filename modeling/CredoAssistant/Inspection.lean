import CredoAssistant.Host
import CredoAssistant.Launch
import CredoAssistant.Settings.Basic
import CredoAssistant.Tally

/-!
Inspections: one run of the linter on one file. The result of an inspection depends on how the
launch ended and on the room for reading its report, and on nothing else; telling the result may
notify the user, and the answer may open the settings.
-/
namespace CredoAssistant

/-- Why an inspection failed: the linter did, or its report cannot be read. -/
inductive InspectionError
  | tool (error : ToolError)
  | report (error : ReportError)
  deriving DecidableEq, Repr

/-- The result of an inspection. -/
inductive Inspection
  | found (issues : List Issue) (returncode : Option Int)
  | toolFailure (error : ToolError)
  | unreadable (error : ReportError) (returncode : Option Int)
  deriving DecidableEq, Repr

namespace Inspection

/-- Whether the linter answered with a report. -/
def isOk : Inspection → Bool
  | found .. => true
  | _ => false

/-- The issues of the report; a failure has none. -/
def issues : Inspection → List Issue
  | found issues _ => issues
  | _ => []

/-- The error of a failed inspection. -/
def error? : Inspection → Option InspectionError
  | found .. => none
  | toolFailure e => some (.tool e)
  | unreadable e _ => some (.report e)

/-- What the linter wrote on its error stream. -/
def stderr : Inspection → String
  | toolFailure e => e.stderr
  | _ => ""

/-- The exit code of the linter, if it came to one. -/
def returncode : Inspection → Option Int
  | found _ code => code
  | toolFailure e => e.returncode
  | unreadable _ code => code

/-- The result of a launch of `command`. Anything on the error stream is a failure of the tool,
whatever the process printed and returned. -/
def ofLaunch (stack : Stack) (command : List String) : Launch → Except Interruption Inspection
  | .crashed message => .error (.launcherCrash message)
  | .nullCharacter => .error .nullCharacter
  | .refused e => .ok (.toolFailure ⟨e.message, none, command⟩)
  | .finished stdout stderr returncode =>
    if stderr ≠ "" then .ok (.toolFailure ⟨stderr, returncode, command⟩)
    else
      match Report.read stack stdout with
      | .error (.oversizedInteger digits) => .error (.oversizedInteger digits)
      | .error (.tooDeep bracket) => .error (.tooDeep bracket)
      | .error (.flawed e) => .ok (.unreadable e returncode)
      | .ok issues => .ok (.found issues returncode)

/-- What is logged when the linter is started. -/
def startRecord (command : List String) : Trace :=
  .log .info .invoker ("Running Credo with `" ++ " ".intercalate command ++ "`")

/-- Reports a result to the log and to the user. -/
def announce (host : Host) : Inspection → Except Interruption Unit × Trace
  | found issues _ =>
    let t := Tally.ofIssues issues
    let heading := s!"Received {issues.length} issues from Credo:"
    (.ok (), .log .info .invoker (t.render heading))
  | toolFailure e =>
    let record := s!"Credo ERROR: exit status={returncodeText e.returncode} {e.stderr}"
    let (result, trace) := host.notify e.stderr
    (result, .log .error .invoker record ++ trace)
  | unreadable e _ =>
    let record := s!"Credo output could not be parsed: {e.message}. Output: {e.excerpt}"
    (.ok (), .log .error .invoker record)

/-- The request that inspects `file` in the directory `root`. -/
def request? (settings : Settings) (options : ProcessOptions) (root : Path) (file : String) :
    Option LaunchRequest :=
  (options.withOverrides? (some root) (settings.timeout.map .number)).map fun o =>
    ⟨settings.commandFor file, o⟩

/-- Ends an inspection: the result of the launch is reported and given back. -/
def conclude (stack : Stack) (host : Host) (command : List String) (launch : Launch) :
    Except Interruption Inspection × Trace :=
  match ofLaunch stack command launch with
  | .error i => (.error i, .empty)
  | .ok result =>
    let (told, trace) := announce host result
    (told.map fun _ => result, trace)

end Inspection

end CredoAssistant
