import CredoAssistant.Launch
import CredoAssistant.Log
import CredoAssistant.Shell.Words
import CredoAssistant.Text.Utf8

/-!
Running a command through the shell and collecting what it writes. A command that does not end
within its time limit is killed and reported as a failure. The shell itself is a parameter.
-/
namespace CredoAssistant

/-- What a process left when it ended. -/
structure ProcessResult where
  args : List String
  returncode : Int
  stdout : String
  stderr : String
  timedOut : Bool
  deriving DecidableEq, Repr

/-- How a process ended: by itself with a status, by a signal, or at the time limit that it had. -/
inductive ProcessEnd (limit : Option Seconds)
  | exited (status : Nat)
  | killed (signal : Nat)
  | late (t : Seconds) (set : limit = some t)
  deriving DecidableEq, Repr

/-- What a process wrote to one of its streams: the bytes that had been taken from the pipe when its
time limit cut their collection short, and those that were left in it. -/
structure Written where
  taken : List UInt8
  left : List UInt8
  deriving DecidableEq, Repr

def Written.bytes (w : Written) : List UInt8 := w.taken ++ w.left

/-- What a process came to: how it ended, and what it wrote. -/
structure Capture (limit : Option Seconds) where
  ending : ProcessEnd limit
  stdout : Written
  stderr : Written
  deriving DecidableEq, Repr

/-- Why a process does not start. -/
inductive StartFailure
  | noArguments
  | badVariableName
  | nullCharacter
  | system (error : SystemError)
  deriving DecidableEq, Repr

def StartFailure.message : StartFailure → String
  | noArguments => "subprocess command requires at least one argument"
  | badVariableName => "illegal environment variable name"
  | nullCharacter => Path.nullMessage
  | system e => e.message

namespace ProcessResult

/-- The return code of a process that was killed for its time. -/
def timeoutCode : Int := 124

/-- What is said about a process that was killed for its time. -/
def timeoutMessage (t : Seconds) : String :=
  "Command timed out after " ++ t.toBinary64.oneDecimal ++ "s"

def decode (bytes : List UInt8) : String := String.ofList (Utf8.decodeLossy bytes)

/-- The result of a process that ended by itself. -/
def ofExit (args : List String) (returncode : Int) (stdout stderr : List UInt8) : ProcessResult :=
  ⟨args, returncode, decode stdout, decode stderr, false⟩

/-- The result of a process that was killed for its time, from what was left in its pipes. The
message follows what stands there. -/
def ofTimeout (args : List String) (t : Seconds) (stdout stderr : List UInt8) : ProcessResult :=
  let text := decode stderr
  let message := timeoutMessage t
  ⟨args, timeoutCode, decode stdout, if text = "" then message else text ++ "\n" ++ message, true⟩

/-- The result of a process that was started with `args`. A signal is a negative return code. After
the time limit the streams are collected anew, and what had been taken from them is not kept. -/
def ofCapture {limit : Option Seconds} (args : List String) (c : Capture limit) : ProcessResult :=
  match c.ending with
  | .exited status => ofExit args status c.stdout.bytes c.stderr.bytes
  | .killed signal => ofExit args (-(signal : Int)) c.stdout.bytes c.stderr.bytes
  | .late t _ => ofTimeout args t c.stdout.left c.stderr.left

/-- What is logged about a process that was started with a command line. -/
def records {limit : Option Seconds} (line : String) (c : Capture limit) : List LogRecord :=
  match c.ending with
  | .late t _ => [⟨.warning, .process, timeoutMessage t ++ ": " ++ line⟩]
  | _ => []

/-- The result as the end of a launch. -/
def toLaunch (r : ProcessResult) : Launch := .finished r.stdout r.stderr (some r.returncode)

end ProcessResult

/-- What the shell is asked for: a command line, the directory to start in, the variables, and a
time limit. -/
structure ShellRequest where
  line : String
  cwd : Option Path
  environment : Entries String String
  timeout : Option Seconds
  deriving DecidableEq, Repr

/-- The surroundings of processes: the variables they inherit, and the shell that runs them or is
refused by the operating system. -/
structure Surroundings where
  environment : Entries String String
  shell : (r : ShellRequest) → Except SystemError (Capture r.timeout)

namespace Surroundings

/-- Whether some text holds a null character. -/
def hasNull (texts : List String) : Bool := texts.any fun s => s.toList.contains '\x00'

/-- Hands the command line of some words to the shell and waits for its end. -/
def execute (s : Surroundings) (args : List String) (line : String) (options : ProcessOptions) :
    Except StartFailure (Capture options.timeout) :=
  let environment := options.env.getD s.environment
  if environment.any fun e => e.1.toList.contains '=' then .error .badVariableName
  else if hasNull args || hasNull (environment.flatMap fun e => [e.1, e.2])
      || options.cwd.any Path.hasNull then
    .error .nullCharacter
  else (s.shell ⟨line, options.cwd, environment, options.timeout⟩).mapError .system

/-- Runs a command line given by its words. -/
def run (s : Surroundings) (args : List String) (options : ProcessOptions) :
    Except StartFailure (ProcessResult × List LogRecord) :=
  match Shell.commandLine? args with
  | none => .error .noArguments
  | some line => do
    let c ← s.execute args line options
    .ok (.ofCapture args c, ProcessResult.records line c)

/-- Launches a command for an inspection. -/
def launch (s : Surroundings) (r : LaunchRequest) : Launch × List LogRecord :=
  match s.run r.args r.options with
  | .ok (result, records) => (result.toLaunch, records)
  | .error (.system e) => (.refused e, [])
  | .error .nullCharacter => (.nullCharacter, [])
  | .error .badVariableName => (.crashed StartFailure.badVariableName.message, [])
  | .error .noArguments => (.crashed StartFailure.noArguments.message, [])

end Surroundings

end CredoAssistant
