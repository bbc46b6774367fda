import CredoAssistant.Settings.Basic

/-!
Settings from the preferences of an editor, which has a scope for the workspace and a global one.
The workspace decides where its value is truthy; everywhere else the global value does.
-/
namespace CredoAssistant

/-- The preferences of a workspace, and those of all workspaces behind them. -/
structure Scopes where
  workspace : Members
  global : Members
  deriving Repr

namespace Scopes

/-- The effective value of a preference, null when neither scope has one. -/
def get (s : Scopes) (name : String) : Value :=
  let fallback := (Entries.get? name s.global).getD .null
  match Entries.get? name s.workspace with
  | some v => if v.isTruthy then v else fallback
  | none => fallback

/-- The preference that sets a field. -/
def preference (field : String) : String := "credo." ++ field

/-- The fields whose preference has a value. -/
def overrides (s : Scopes) : Members :=
  (Settings.fields.map fun field => (field, s.get (preference field))).filter fun m => !m.2.isNull

/-- The settings of the scopes, with the fields of `base` where no preference has a value. -/
def settings (s : Scopes) (base : Settings) : Except Rejection Settings :=
  match s.overrides with
  | [] => .ok base
  | explicit => Settings.ofMembers (Entries.update base.toMembers explicit)

/-- What is said about preferences that do not fit. -/
def rejectionMessage (r : Rejection) : String := s!"invalid host configuration: {r.message}"

end Scopes

end CredoAssistant
