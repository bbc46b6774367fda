import CredoAssistant.Entries
import CredoAssistant.Log
import CredoAssistant.Settings.Basic

/-!
The registry of assistants: which assistants watch a syntax, and on which event.
-/
namespace CredoAssistant

/-- An assistant and the event it is called on. -/
structure Registration (α : Type) where
  assistant : α
  event : String
  deriving DecidableEq, Repr

/-- The registrations of each syntax, in order. -/
abbrev Registry (α : Type) := Entries String (List (Registration α))

namespace Registry

variable {α : Type}

/-- Adds a registration for one syntax. -/
def add (syntaxName : String) (r : Registration α) (reg : Registry α) : Registry α :=
  Entries.set syntaxName ((Entries.get? syntaxName reg).getD [] ++ [r]) reg

/-- What is logged for one syntax. -/
def record (syntaxName event : String) : LogRecord :=
  ⟨.debug, .host, s!"registered issue assistant for {syntaxName} ({event})"⟩

/-- Registers an assistant for each syntax in turn; a repeated one is registered again. -/
def register (syntaxes : List String) (assistant : α) (event : String) (reg : Registry α) :
    Registry α × List LogRecord :=
  (syntaxes.foldl (fun acc name => add name ⟨assistant, event⟩ acc) reg,
    syntaxes.map fun name => record name event)

/-- Registers an assistant for the syntaxes and the event of its settings. -/
def registerFor (settings : Settings) (assistant : α) (reg : Registry α) :
    Registry α × List LogRecord :=
  register settings.syntaxes assistant settings.event reg

/-- The assistants of a syntax, on one event or on any. -/
def assistants (syntaxName : String) (event : Option String) (reg : Registry α) : List α :=
  (((Entries.get? syntaxName reg).getD []).filter fun r =>
    event.all fun e => r.event == e).map Registration.assistant

end Registry

end CredoAssistant
