import CredoAssistant.Shell.Words
import CredoAssistant.Validation.Rules

/-!
Settings: how the linter is invoked and how its findings are published. Settings are read from the
members of an object; where a list of texts is expected, a shell command line is accepted too.
-/
namespace CredoAssistant

/-- How the linter is run. -/
structure Settings where
  launcher : String
  command : List String
  extraArgs : List String
  strict : Bool
  configName : Option String
  timeout : Option Binary64
  clearOnFailure : Bool
  syntaxes : List String
  event : String
  deriving DecidableEq, Repr

namespace Settings

open Validation

/-- The settings that hold where nothing else is said. -/
def default : Settings :=
  { launcher := "/usr/bin/env"
    command := ["mix", "credo"]
    extraArgs := []
    strict := false
    configName := none
    timeout := none
    clearOnFailure := true
    syntaxes := ["elixir"]
    event := "on-save" }

instance : Inhabited Settings := ⟨default⟩

/-- The names of the fields, in order. -/
def fields : List String :=
  ["launcher", "command", "extra_args", "strict", "config_name", "timeout", "clear_on_failure",
    "syntaxes", "event"]

/-- A list of texts, or a command line that splits into one. -/
def words (field : String) : Value → Checked (List String)
  | .text line =>
    match Shell.split line with
    | .ok ws => .passed ws
    | .error reason => .failed [⟨[field], .refused reason, .of (.text line)⟩]
  | v => texts field v

/-- A list that names at least one word. -/
def nonemptyWords (field : String) (v : Value) : Checked (List String) :=
  match words field v with
  | .passed [] => .failed [⟨[field], .refused .emptyCommand, .of v⟩]
  | checked => checked

/-- A field of many faults that has a value when it is absent. -/
def defaultedList (ms : Members) (field : String) (default : List String)
    (rule : String → Value → Checked (List String)) : Checked (List String) :=
  match Entries.get? field ms with
  | none => .passed default
  | some v => rule field v

/-- The members that are no field, each a fault. -/
def strayFaults (ms : Members) : List Fault :=
  (ms.filter fun m => !fields.contains m.1).map fun m => ⟨[m.1], .forbidden, .of m.2⟩

/-- Passes when no member is left over. -/
def closed (ms : Members) : Checked Unit :=
  match strayFaults ms with
  | [] => .passed ()
  | faults => .failed faults

/-- Checks every field in order and then the members that are none. -/
def checkMembers (ms : Members) : Checked Settings :=
  (fun launcher command extraArgs strict configName timeout clearOnFailure syntaxes event _ =>
      Settings.mk launcher command extraArgs strict configName timeout clearOnFailure syntaxes
        event)
    <$> defaulted ms "launcher" default.launcher text
    <*> defaultedList ms "command" default.command nonemptyWords
    <*> defaultedList ms "extra_args" default.extraArgs words
    <*> defaulted ms "strict" default.strict boolean
    <*> defaulted ms "config_name" default.configName (nullable text)
    <*> defaulted ms "timeout" default.timeout (nullable nonNegative)
    <*> defaulted ms "clear_on_failure" default.clearOnFailure boolean
    <*> defaultedList ms "syntaxes" default.syntaxes words
    <*> defaulted ms "event" default.event text
    <*> closed ms

/-- Reads settings from members. -/
def ofMembers (ms : Members) : Except Rejection Settings := (checkMembers ms).toExcept .settings

/-- Reads settings. -/
def ofValue : Value → Except Rejection Settings
  | .object ms => ofMembers ms
  | v => .error ⟨.settings, [⟨[], .notObject .settings, .of v⟩]⟩

/-- Every field with its value. -/
def toMembers (s : Settings) : Members :=
  [("launcher", .text s.launcher), ("command", .texts s.command),
    ("extra_args", .texts s.extraArgs), ("strict", .bool s.strict),
    ("config_name", .optional .text s.configName), ("timeout", .optional .float s.timeout),
    ("clear_on_failure", .bool s.clearOnFailure), ("syntaxes", .texts s.syntaxes),
    ("event", .text s.event)]

def toValue (s : Settings) : Value := .object s.toMembers

/-- The options of the linter that follow from the settings. -/
def options (s : Settings) : List String :=
  (if s.strict then ["--strict"] else [])
    ++ (match s.configName with
      | some name => if name = "" then [] else ["--config-name", name]
      | none => [])
    ++ s.extraArgs

/-- The words of the command that inspects `file`. An empty launcher is left out. -/
def commandFor (s : Settings) (file : String) : List String :=
  (if s.launcher = "" then [] else [s.launcher]) ++ s.command ++ ["--format", "json"]
    ++ s.options ++ [file]

end Settings

end CredoAssistant
