import CredoAssistant.Process.Options
import CredoAssistant.SystemError
import CredoAssistant.Text.Blank

/-!
Launches of the linter: what is asked for, how it ends, and the error of a launch that failed.
-/
namespace CredoAssistant

/-- A return code in messages. -/
def returncodeText : Option Int → String
  | none => "None"
  | some n => Decimal.text n

/-- A failure of the linter itself: what it wrote to its error stream, or why it did not start. -/
structure ToolError where
  stderr : String
  returncode : Option Int
  command : List String
  deriving DecidableEq, Repr

def ToolError.message (e : ToolError) : String :=
  let reason := Text.strip e.stderr
  let reason := if reason = "" then "<none>" else reason
  s!"Credo exited with status {returncodeText e.returncode}: {reason}"

/-- How the launch of a command ends: with a finished process, with an error of the operating
system, with a crash of the launcher itself, or at a null character in the command line. -/
inductive Launch
  | finished (stdout stderr : String) (returncode : Option Int)
  | refused (error : SystemError)
  | crashed (message : String)
  | nullCharacter
  deriving DecidableEq, Repr, Inhabited

/-- A command handed to the launcher. -/
structure LaunchRequest where
  args : List String
  options : ProcessOptions
  deriving DecidableEq, Repr

end CredoAssistant
