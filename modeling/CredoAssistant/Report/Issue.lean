import CredoAssistant.Validation.Rules

/-!
One issue of a report, and how it is read from the members of an object. Members outside the ten
known ones are ignored; a missing or null scope, trigger or file name is the empty text.
-/
namespace CredoAssistant

/-- A finding of the linter. -/
structure Issue where
  category : String
  check : String
  column : Option Int
  columnEnd : Option Int
  filename : String
  line : Int
  message : String
  priority : Int
  scope : String
  trigger : String
  deriving DecidableEq, Repr, Inhabited

namespace Issue

open Validation

/-- A text, or null for the empty one. -/
def textOrEmpty : Value → Except Problem String
  | .null => .ok ""
  | v => text v

/-- Checks every member; faults come in field order. -/
def ofMembers (ms : Members) : Checked Issue :=
  Issue.mk <$> required ms "category" text
    <*> required ms "check" text
    <*> defaulted ms "column" none (nullable integer)
    <*> defaulted ms "column_end" none (nullable integer)
    <*> defaulted ms "filename" "" textOrEmpty
    <*> required ms "line_no" positive
    <*> required ms "message" text
    <*> required ms "priority" exactInteger
    <*> defaulted ms "scope" "" textOrEmpty
    <*> defaulted ms "trigger" "" textOrEmpty

/-- Reads an issue. -/
def ofValue : Value → Except Rejection Issue
  | .object ms => (ofMembers ms).toExcept .issue
  | v => .error ⟨.issue, [⟨[], .notObject .issue, .of v⟩]⟩

/-- The object that stands for an issue in a report. -/
def toValue (i : Issue) : Value :=
  .object
    [("category", .text i.category), ("check", .text i.check),
     ("column", .optional .int i.column), ("column_end", .optional .int i.columnEnd),
     ("filename", .text i.filename), ("line_no", .int i.line), ("message", .text i.message),
     ("priority", .int i.priority), ("scope", .text i.scope), ("trigger", .text i.trigger)]

end Issue

end CredoAssistant
