import CredoAssistant.Console.Arguments
import CredoAssistant.Display
import CredoAssistant.Publisher
import CredoAssistant.Settings.Layers

/-!
Commands of the command line: `inspect` shows the diagnostics of one file, `config` the settings of
a project. A command answers with an exit code and with what it printed.
-/
namespace CredoAssistant.Console

/-- The world that a command runs in: files, environment, the width of the terminal, the room on the
stack, and what runs the linter. -/
structure World where
  files : FileTree
  environment : Environment
  width : Nat
  stack : Stack
  launch : LaunchRequest → Launch × List LogRecord

/-- What a command leaves. -/
structure Execution where
  exitCode : Nat
  stdout : String
  stderr : String
  logs : List LogRecord
  requests : List LaunchRequest
  deriving Repr

/-- Failures that no command handles. -/
inductive CommandFailure
  | unloadable (failure : LoadFailure)
  | interrupted (cause : Interruption)
  | unprintable (fault : Terminal.CellFault)
  deriving Repr

def CommandFailure.message : CommandFailure → String
  | unloadable f => f.message
  | interrupted i => i.message
  | unprintable f => f.message

/-- How diagnostics are shown. -/
inductive Format
  | pretty
  | json
  deriving DecidableEq, Repr

/-- A format by its name in any case. -/
def Format.ofName? (s : String) : Option Format :=
  let word := String.ofList (s.toList.map Char.toLower)
  if word = "pretty" then some .pretty else if word = "json" then some .json else none

namespace World

def screen (w : World) : Screen := ⟨w.width, false⟩

/-- What was printed, unless it could not be. -/
def printed {α : Type} (shown : Except Terminal.CellFault α) : Except CommandFailure α :=
  shown.mapError .unprintable

def status (w : World) (emoji : Bool) (k : Status) (message : String) :
    Except CommandFailure String :=
  printed (k.render w.screen emoji message)

/-- A command that fails with a message. -/
def failing (w : World) (emoji : Bool) (exitCode : Nat) (message : String) :
    Except CommandFailure Execution := do
  .ok ⟨exitCode, "", ← w.status emoji .fail message, [], []⟩

/-- What the options of `inspect` set, absent ones aside. -/
def overrides (strict : Option Bool) (timeout : Option Binary64) : Members :=
  [("strict", .optional .bool strict), ("timeout", .optional .float timeout)]

/-- An inspection by the linter, and what it leaves besides. -/
structure Findings where
  published : Option (List Diagnostic)
  trace : Trace
  requests : List LaunchRequest
  deriving Repr

/-- The host at the end of a launch: the notification of its failure is shown on the screen and the
first action chosen, unless it cannot be shown. -/
def hostAfter (w : World) (launch : Launch) : Host :=
  let stderr :=
    match launch with
    | .finished _ stderr _ => stderr
    | .refused e => e.message
    | _ => ""
  match (Notification.ofFailure stderr).render w.screen with
  | .ok _ => ⟨.chose (some 0), none⟩
  | .error fault => ⟨.failed fault.message, none⟩

/-- What is left on the screen of a notification. -/
def shownOf (w : World) (n : Notification) : String := (n.render w.screen).toOption.getD ""

/-- Inspects one document. -/
def inspectDocument (w : World) (setup : Setup) (d : Document) :
    Except Interruption Findings :=
  match Publisher.request setup (Publisher.empty.openView ⟨0, d⟩) d with
  | (.busy, trace, _) => .ok ⟨none, trace, []⟩
  | (.interrupted i, _, _) => .error i
  | (.started request, trace, p) =>
    let (launch, records) := w.launch request
    match Publisher.finish setup (w.hostAfter launch) p d launch with
    | (.error i, _, _) => .error i
    | (.ok ds, more, _) => .ok ⟨ds, trace ++ ⟨records, [], 0⟩ ++ more, [request]⟩

/-- Shows what an inspection found. Diagnostics that count as errors decide the exit code. -/
def report (w : World) (file : String) (format : Format) (emoji : Bool) (threshold : LogLevel)
    (f : Findings) : Except CommandFailure Execution :=
  let notified := String.join (f.trace.notified.map w.shownOf)
  let logs := LogRecord.atLeast threshold f.trace.logs
  match f.published with
  | none => do
    let line ← w.status emoji .fail ("Credo did not produce diagnostics for " ++ file)
    .ok ⟨2, "", notified ++ line, logs, f.requests⟩
  | some ds =>
    let errors := (ds.filter fun d => d.severity == .error).length
    let exitCode := if errors = 0 then 0 else 1
    match format with
    | .json => .ok ⟨exitCode, Diagnostic.renderJson ds ++ "\n", notified, logs, f.requests⟩
    | .pretty => do
      let shown ← printed (Diagnostic.renderPretty w.screen file ds)
      let line ←
        if errors = 0 then w.status emoji .ok ("Credo finished for " ++ file)
        else
          let count := Decimal.text errors
          let message := "Credo reported " ++ count ++ " error-severity issue(s) in " ++ file
          w.status emoji .warn message
      .ok ⟨exitCode, shown, notified ++ line, logs, f.requests⟩

/-- The command `inspect`. -/
def inspect (w : World) (file : Path) (root : Path) (formatName : String) (strict : Option Bool)
    (timeout : Option Binary64) (emoji verbose : Bool) : Except CommandFailure Execution :=
  match Format.ofName? formatName with
  | none => w.failing emoji 2 ("unsupported format '" ++ formatName ++ "'")
  | some format =>
    match Settings.load w.stack w.files w.environment root (overrides strict timeout) with
    | .error f =>
      if f.isConfiguration then w.failing emoji 2 f.message else .error (.unloadable f)
    | .ok loaded =>
      match Document.ofPath? Document.systemLinks root file.text with
      | none => .error (.interrupted .nullCharacter)
      | some d =>
        match w.inspectDocument ⟨loaded.settings, .empty, root, w.stack⟩ d with
        | .error i => .error (.interrupted i)
        | .ok f => w.report file.text format emoji (LogLevel.threshold verbose false) f

/-- What `config` prints: the settings and, when they are asked for, their sources by name. -/
def configValue (loaded : Loaded) (trace : Bool) : Value :=
  let sources := loaded.provenance.mergeSort fun a b => decide (a.1 ≤ b.1)
  let settings : Members := [("settings", loaded.settings.toValue)]
  if trace then
    .object (settings ++ [("sources", .object (sources.map fun e => (e.1, .text e.2)))])
  else .object settings

/-- The command `config`. -/
def config (w : World) (root : Path) (trace : Bool) : Except CommandFailure Execution :=
  match Settings.load w.stack w.files w.environment root [] with
  | .error f =>
    if f.isConfiguration then w.failing true 1 f.message else .error (.unloadable f)
  | .ok loaded =>
    .ok ⟨0, Json.render .indented (configValue loaded trace) ++ "\n", "", [], []⟩

/-- Does what a request asks for. -/
def execute (w : World) : Request → Except CommandFailure Execution
  | .inspect file root format strict timeout emoji verbose =>
    w.inspect file root format strict timeout emoji verbose
  | .config root trace => w.config root trace

end World

end CredoAssistant.Console
