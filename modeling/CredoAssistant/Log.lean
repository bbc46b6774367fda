/-!
Log records: what the parts of the program tell about a run.
-/
namespace CredoAssistant

/-- How much a record weighs. -/
inductive LogLevel
  | debug
  | info
  | warning
  | error
  deriving DecidableEq, Repr

namespace LogLevel

def name : LogLevel → String
  | debug => "DEBUG"
  | info => "INFO"
  | warning => "WARNING"
  | error => "ERROR"

/-- Levels by rising weight. -/
def rank : LogLevel → Nat
  | debug => 10
  | info => 20
  | warning => 30
  | error => 40

end LogLevel

/-- The parts of the program that write records. -/
inductive LogChannel
  | host
  | invoker
  | notifications
  | publisher
  | process
  deriving DecidableEq, Repr

def LogChannel.name : LogChannel → String
  | host => "credo_bridge.host"
  | invoker => "credo_bridge.invoker"
  | notifications => "credo_bridge.notifications"
  | publisher => "credo_bridge.publisher"
  | process => "credo_bridge.core.runtime.process"

/-- One message with its weight and its sender. -/
structure LogRecord where
  level : LogLevel
  channel : LogChannel
  message : String
  deriving DecidableEq, Repr

/-- The least level that is shown. -/
def LogLevel.threshold (verbose debug : Bool) : LogLevel :=
  if debug then .debug else if verbose then .info else .warning

/-- The records of at least the given level. -/
def LogRecord.atLeast (level : LogLevel) (records : List LogRecord) : List LogRecord :=
  records.filter fun r => level.rank ≤ r.level.rank

end CredoAssistant
