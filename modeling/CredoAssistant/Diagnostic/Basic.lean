import CredoAssistant.Severity
import CredoAssistant.Validation.Rules

/-!
Diagnostics for an editor: one span on one line, with a severity. The payload is the object that an
editor host receives.
-/
namespace CredoAssistant

/-- The source that diagnostics name unless they are given another one. -/
def sourceLabel : String := "Credo"

/-- A finding as hosts show it. Its place is one line and at most one range of columns. -/
structure Diagnostic where
  code : String
  message : String
  severity : Severity
  source : String
  line : Int
  column : Option Int
  endLine : Int
  endColumn : Option Int
  check : Option String
  file : Option String
  deriving DecidableEq, Repr, Inhabited

namespace Diagnostic

open Validation

/-- Whether the span starts and ends on the same line. -/
def IsOneLine (d : Diagnostic) : Prop := d.line = d.endLine

instance (d : Diagnostic) : Decidable d.IsOneLine :=
  inferInstanceAs (Decidable (d.line = d.endLine))

/-- The name of a severity. -/
def severityOf : Value → Except Problem Severity
  | .text s =>
    match Severity.ofName? s with
    | some v => .ok v
    | none => .error .unknownSeverity
  | _ => .error .unknownSeverity

/-- Checks every member; faults come in field order. -/
def ofMembers (ms : Members) : Checked Diagnostic :=
  Diagnostic.mk <$> required ms "code" text
    <*> required ms "message" text
    <*> required ms "severity" severityOf
    <*> defaulted ms "source" sourceLabel text
    <*> required ms "line" integer
    <*> defaulted ms "column" none (nullable integer)
    <*> required ms "end_line" integer
    <*> defaulted ms "end_column" none (nullable integer)
    <*> defaulted ms "check" none (nullable text)
    <*> defaulted ms "file" none (nullable text)

/-- Reads a diagnostic. The span is checked once every field is sound. -/
def ofValue : Value → Except Rejection Diagnostic
  | .object ms =>
    match (ofMembers ms).toExcept .diagnostic with
    | .error r => .error r
    | .ok d =>
      if d.IsOneLine then .ok d
      else .error ⟨.diagnostic, [⟨[], .refused .spansLines, .of (.object ms)⟩]⟩
  | v => .error ⟨.diagnostic, [⟨[], .notObject .diagnostic, .of v⟩]⟩

/-- All fields as an object. -/
def toValue (d : Diagnostic) : Value :=
  .object
    [("code", .text d.code), ("message", .text d.message), ("severity", .text d.severity.name),
     ("source", .text d.source), ("line", .int d.line), ("column", .optional .int d.column),
     ("end_line", .int d.endLine), ("end_column", .optional .int d.endColumn),
     ("check", .optional .text d.check), ("file", .optional .text d.file)]

/-- The object that an editor host receives. -/
def toPayload (d : Diagnostic) : Value :=
  .object
    [("code", .text d.code), ("message", .text d.message), ("severity", .text d.severity.name),
     ("source", .text d.source), ("line", .int d.line), ("column", .optional .int d.column),
     ("endLine", .int d.endLine), ("endColumn", .optional .int d.endColumn)]

end Diagnostic

end CredoAssistant
