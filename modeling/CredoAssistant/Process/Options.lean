import CredoAssistant.Path
import CredoAssistant.Value

/-!
Options of a process: working directory, environment and time limit.
-/
namespace CredoAssistant

/-- A length of time in seconds, as a whole or a binary64 number. A truth value stands for one
second or for none, and stays what it is. -/
inductive Seconds
  | whole (n : Int)
  | number (x : Binary64)
  | truth (b : Bool)
  deriving DecidableEq, Repr

namespace Seconds

def isNegative : Seconds → Bool
  | whole n => n < 0
  | number x => x.isBelowZero
  | truth _ => false

def toValue : Seconds → Value
  | whole n => .int n
  | number x => .float x
  | truth b => .bool b

/-- The length as a binary64 number. -/
def toBinary64 : Seconds → Binary64
  | whole n => Binary64.ofInt n
  | number x => x
  | truth b => Binary64.ofInt b.toInt

end Seconds

/-- How a process is started. An absent option is left to the system. -/
structure ProcessOptions where
  cwd : Option Path
  env : Option (Entries String String)
  timeout : Option Seconds
  deriving DecidableEq, Repr

namespace ProcessOptions

def empty : ProcessOptions := ⟨none, none, none⟩

instance : Inhabited ProcessOptions := ⟨empty⟩

/-- Whether the time limit, if there is one, can be kept. -/
def isValid (o : ProcessOptions) : Bool := o.timeout.all fun t => !t.isNegative

/-- Options with the given values; a negative time limit is refused. -/
def mk? (cwd : Option Path) (env : Option (Entries String String)) (timeout : Option Seconds) :
    Option ProcessOptions :=
  let o : ProcessOptions := ⟨cwd, env, timeout⟩
  if o.isValid then some o else none

/-- The options with the given values put in, absent ones aside: the directory first, then the time
limit. What comes of each change is checked like new options. -/
def withOverrides? (o : ProcessOptions) (cwd : Option Path) (timeout : Option Seconds) :
    Option ProcessOptions := do
  let moved ←
    match cwd with
    | none => some o
    | some p => mk? (some p) o.env o.timeout
  match timeout with
  | none => some moved
  | some t => mk? moved.cwd moved.env (some t)

/-- What is said about a negative time limit. -/
def negativeTimeout : String := "timeout must be non-negative"

end ProcessOptions

end CredoAssistant
