import CredoAssistant.Text.Quoted

/-!
Severities of diagnostics and the priorities they come from. Priority 1 is the most severe; only the
integers 1 to 4 have a severity, whatever other values may equal them elsewhere.
-/
namespace CredoAssistant

/-- How much a finding weighs. -/
inductive Severity
  | error
  | warning
  | hint
  | info
  deriving DecidableEq, Repr, Inhabited

namespace Severity

/-- All severities, the most severe first. -/
def all : List Severity := [error, warning, hint, info]

def name : Severity → String
  | error => "error"
  | warning => "warning"
  | hint => "hint"
  | info => "info"

def ofName? (s : String) : Option Severity := all.find? fun v => v.name == s

/-- The severity of a priority. -/
def ofPriority? (p : Int) : Option Severity :=
  if p = 1 then some error
  else if p = 2 then some warning
  else if p = 3 then some hint
  else if p = 4 then some info
  else none

/-- The priority that maps to a severity. -/
def priority : Severity → Int
  | error => 1
  | warning => 2
  | hint => 3
  | info => 4

theorem ofPriority?_eq_some_iff {p : Int} {s : Severity} :
    ofPriority? p = some s ↔ p = s.priority := by
  cases s <;> simp only [ofPriority?, priority] <;> grind

end Severity

/-- A priority without a severity, and the check that reported it. -/
structure MappingError where
  priority : Value
  check : String
  deriving Repr

def MappingError.message (e : MappingError) : String :=
  let base := s!"unsupported Credo priority {e.priority.display}"
  if e.check = "" then base else base ++ s!" for check {e.check}"

/-- The severity of a dynamic priority. Booleans and numbers with a point are no integers. -/
def Severity.ofValue (priority : Value) (check : String) : Except MappingError Severity :=
  match priority with
  | .int p =>
    match ofPriority? p with
    | some s => .ok s
    | none => .error ⟨priority, check⟩
  | _ => .error ⟨priority, check⟩

end CredoAssistant
