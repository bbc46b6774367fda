import CredoAssistant.Log
import CredoAssistant.Notification
import CredoAssistant.Process.Options
import CredoAssistant.Report.Reader

/-!
The host around an inspection: the notification service, the settings view, and the trace that the
parts of the program leave there.
-/
namespace CredoAssistant

/-- Failures that no part of an inspection handles. -/
inductive Interruption
  | launcherCrash (message : String)
  | settingsFailure (message : String)
  | oversizedInteger (digits : Nat)
  | tooDeep (bracket : Json.Bracket)
  | negativeTimeout
  | nullCharacter
  deriving DecidableEq, Repr

def Interruption.message : Interruption → String
  | launcherCrash message => message
  | settingsFailure message => message
  | oversizedInteger digits => oversizedMessage digits
  | tooDeep bracket => depthMessage bracket
  | negativeTimeout => ProcessOptions.negativeTimeout
  | nullCharacter => Path.nullMessage

/-- What a part of the program leaves behind: log records, notifications shown to the user, and how
often the settings were opened. -/
structure Trace where
  logs : List LogRecord
  notified : List Notification
  settingsOpened : Nat
  deriving DecidableEq, Repr

namespace Trace

def empty : Trace := ⟨[], [], 0⟩

instance : Inhabited Trace := ⟨empty⟩

/-- One after the other. -/
def append (a b : Trace) : Trace :=
  ⟨a.logs ++ b.logs, a.notified ++ b.notified, a.settingsOpened + b.settingsOpened⟩

instance : Append Trace := ⟨append⟩

def log (level : LogLevel) (channel : LogChannel) (message : String) : Trace :=
  ⟨[⟨level, channel, message⟩], [], 0⟩

end Trace

/-- How the surroundings of an inspection behave: the reply of the notification service, and what
opening the settings fails with, if it does. -/
structure Host where
  notifier : NotifierReply
  settingsFailure : Option String
  deriving DecidableEq, Repr, Inhabited

namespace Host

/-- Opens the settings. The request counts even when it fails. -/
def openSettings (h : Host) : Except Interruption Unit × Trace :=
  match h.settingsFailure with
  | none => (.ok (), ⟨[], [], 1⟩)
  | some message => (.error (.settingsFailure message), ⟨[], [], 1⟩)

/-- Notifies the user of a failure of the linter and opens the settings if that is the answer. -/
def notify (h : Host) (stderr : String) : Except Interruption Unit × Trace :=
  let shown : Trace := ⟨[], [Notification.ofFailure stderr], 0⟩
  match h.notifier with
  | .failed message =>
    (.ok (), shown ++ .log .error .notifications s!"Credo notification failed: {message}")
  | .chose action =>
    if action = some Notification.settingsAction then
      let (result, trace) := h.openSettings
      (result, shown ++ trace)
    else (.ok (), shown)

end Host

end CredoAssistant
