import CredoAssistant.FileTree
import CredoAssistant.Report.Reader
import CredoAssistant.Settings.Basic
import CredoAssistant.SystemError
import CredoAssistant.Text.Utf8
import CredoAssistant.Toml.Reader
import CredoAssistant.Validation.Fault

/-!
Sources of settings: built-in defaults, a section of the project file, a file of its own, and
environment variables. Each yields a fragment, the members that it sets, or fails. Most failures are
errors of the configuration; bytes that are no text, numbers that are too long, values that nest too
deep, errors of the system and the absence of any source are not.
-/
namespace CredoAssistant

/-! ### Failures -/

/-- Why settings are not loaded. -/
inductive LoadFailure
  | notToml (path : String) (text : List Char) (cause : Toml.Cause) (left : Nat)
  | sectionNotTable (path : String)
  | rejected (rejection : Rejection)
  | undecodable (cause : Utf8.Undecodable)
  | oversizedInteger (digits : Nat)
  | tooDeep
  | system (error : SystemError)
  | noSources
  deriving DecidableEq, Repr

namespace LoadFailure

/-- Whether the failure counts as an error of the configuration. -/
def isConfiguration : LoadFailure → Bool
  | notToml .. => true
  | sectionNotTable _ => true
  | rejected _ => true
  | undecodable _ => false
  | oversizedInteger _ => false
  | tooDeep => false
  | system _ => false
  | noSources => false

def message : LoadFailure → String
  | notToml path text cause left =>
    s!"Configuration at {path} is not valid TOML: {Toml.located cause text left}"
  | sectionNotTable path => s!"[tool.credo-bridge] in {path} must be a table"
  | rejected rejection => s!"invalid configuration: {rejection.message}"
  | undecodable cause => cause.message
  | oversizedInteger digits => oversizedMessage digits
  | tooDeep => "maximum recursion depth exceeded"
  | system error => error.message
  | noSources => "at least one configuration source is required"

end LoadFailure

/-! ### Sources -/

/-- Environment variables by name. -/
abbrev Environment := Entries String String

/-- Where settings come from. -/
inductive Source
  | defaults
  | projectFile (path : Path)
  | settingsFile (path : Path)
  | environment
  deriving DecidableEq, Repr

namespace Source

def name : Source → String
  | defaults => "defaults"
  | projectFile path => path.text
  | settingsFile path => path.text
  | environment => "environment"

def description : Source → String
  | defaults => "Built-in defaults"
  | projectFile path => s!"pyproject.toml ({path.text})"
  | settingsFile path => s!"TOML configuration at {path.text}"
  | environment => "Environment variables (CREDO_BRIDGE_*)"

/-- The standard sources of a project, the weakest first. -/
def standard (root : Path) : List Source :=
  [defaults, projectFile (root.join (Path.ofText "pyproject.toml")),
    settingsFile (root.join (Path.ofText ".credo-bridge.toml")), environment]

/-- Hyphens in the names of settings stand for underscores. -/
def underscored (key : String) : String :=
  String.ofList (key.toList.map fun c => if c = '-' then '_' else c)

/-- The members under their normal names. Of two that get the same name, the place of the first and
the value of the last remain. -/
def normalized (ms : Members) : Members :=
  Entries.ofPairs (ms.map fun m => (underscored m.1, m.2))

/-- The fragment of the top level of a settings file. -/
def settingsFragment (document : Members) : Members := normalized document

/-- The fragment of a project file: its own section, if there is one. -/
def projectFragment (path : Path) (document : Members) : Except LoadFailure Members :=
  match Entries.get? "tool" document with
  | some (.object tool) =>
    match Entries.get? "credo-bridge" tool with
    | none => .ok []
    | some .null => .ok []
    | some (.object table) => .ok (normalized table)
    | some _ => .error (.sectionNotTable path.text)
  | _ => .ok []

/-- Reads bytes as a TOML document. -/
def parseDocument (stack : Stack) (path : Path) (bytes : List UInt8) :
    Except LoadFailure Members :=
  match Utf8.decode bytes with
  | .error u => .error (.undecodable u)
  | .ok cs =>
    let text := Toml.normalizeLineEnds cs
    match Toml.read stack text with
    | .error (.malformed cause left) => .error (.notToml path.text text cause left)
    | .error (.oversizedInteger digits) => .error (.oversizedInteger digits)
    | .error .tooDeep => .error .tooDeep
    | .ok ms => .ok ms

/-- The document at a path; a missing file counts as an empty one. -/
def readDocument (stack : Stack) (files : FileTree) (path : Path) : Except LoadFailure Members :=
  match files.contents? path with
  | .error e => .error (.system e)
  | .ok none => .ok []
  | .ok (some bytes) => parseDocument stack path bytes

/-- The environment variable of a field. -/
def variableName (field : String) : String :=
  "CREDO_BRIDGE_" ++ String.ofList (field.toList.map Char.toUpper)

/-- The fields with a variable that is not empty. -/
def environmentFragment (env : Environment) : Members :=
  Settings.fields.filterMap fun field =>
    match Entries.get? (variableName field) env with
    | some value => if value = "" then none else some (field, .text value)
    | none => none

/-- The fragment of a source. -/
def load (stack : Stack) (files : FileTree) (env : Environment) :
    Source → Except LoadFailure Members
  | defaults => .ok Settings.default.toMembers
  | projectFile path => (readDocument stack files path).bind (projectFragment path)
  | settingsFile path => (readDocument stack files path).map settingsFragment
  | environment => .ok (environmentFragment env)

end Source

end CredoAssistant
