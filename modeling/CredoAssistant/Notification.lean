/-!
Notifications to the user, and what the service that shows them answers.
-/
namespace CredoAssistant

/-- What a host is asked to show its user; `actions` are the choices offered. -/
structure Notification where
  identifier : String
  title : String
  body : String
  actions : List String
  deriving DecidableEq, Repr, Inhabited

namespace Notification

/-- The notification of a failure of the linter. -/
def ofFailure (stderr : String) : Notification :=
  { identifier := "credo-error"
    title := "Credo Encountered an Error"
    body := stderr ++ "\nPlease check your configuration."
    actions := ["Dismiss", "Project Settings"] }

/-- The position of the action that opens the settings. -/
def settingsAction : Int := 1

end Notification

/-- How the service reacts to a notification: with the position of the chosen action, or by
failing. -/
inductive NotifierReply
  | chose (action : Option Int)
  | failed (message : String)
  deriving DecidableEq, Repr, Inhabited

end CredoAssistant
