import CredoAssistant.Validation.Echo

/-!
Faults of values that do not fit a record: where each one lies, what is wrong, which value it was,
and the text of the whole rejection.
-/
namespace CredoAssistant

/-- A reason of a record's own rules to refuse a value. -/
inductive Refusal
  | unclosedQuotation
  | danglingEscape
  | emptyCommand
  | spansLines
  deriving DecidableEq, Repr

def Refusal.message : Refusal → String
  | unclosedQuotation => "No closing quotation"
  | danglingEscape => "No escaped character"
  | emptyCommand => "command must name at least one executable or task"
  | spansLines => "diagnostic spans must start and end on the same line"

/-- The records that values are validated against. -/
inductive Schema
  | issue
  | settings
  | diagnostic
  deriving DecidableEq, Repr

def Schema.name : Schema → String
  | issue => "RawAnalysisIssue"
  | settings => "BridgeSettings"
  | diagnostic => "Diagnostic"

/-- What is wrong with one value. -/
inductive Problem
  | missing
  | notObject (schema : Schema)
  | notText
  | notInteger
  | unreadableInteger
  | fractionalInteger
  | oversizedInteger
  | notFinite
  | notPositive
  | negative
  | notNumber
  | unreadableNumber
  | notBoolean
  | unreadableBoolean
  | notSequence
  | unknownSeverity
  | forbidden
  | refused (reason : Refusal)
  deriving DecidableEq, Repr

namespace Problem

def message : Problem → String
  | missing => "Field required"
  | notObject schema => s!"Input should be a valid dictionary or instance of {schema.name}"
  | notText => "Input should be a valid string"
  | notInteger => "Input should be a valid integer"
  | unreadableInteger => "Input should be a valid integer, unable to parse string as an integer"
  | fractionalInteger => "Input should be a valid integer, got a number with a fractional part"
  | oversizedInteger => "Unable to parse input string as an integer, exceeded maximum size"
  | notFinite => "Input should be a finite number"
  | notPositive => "Input should be greater than 0"
  | negative => "Input should be greater than or equal to 0"
  | notNumber => "Input should be a valid number"
  | unreadableNumber => "Input should be a valid number, unable to parse string as a number"
  | notBoolean => "Input should be a valid boolean"
  | unreadableBoolean => "Input should be a valid boolean, unable to interpret input"
  | notSequence => "Input should be a valid tuple"
  | unknownSeverity => "Input should be 'error', 'warning', 'hint' or 'info'"
  | forbidden => "Extra inputs are not permitted"
  | refused reason => s!"Value error, {reason.message}"

/-- The short name of the problem. -/
def tag : Problem → String
  | missing => "missing"
  | notObject _ => "model_type"
  | notText => "string_type"
  | notInteger => "int_type"
  | unreadableInteger => "int_parsing"
  | fractionalInteger => "int_from_float"
  | oversizedInteger => "int_parsing_size"
  | notFinite => "finite_number"
  | notPositive => "greater_than"
  | negative => "greater_than_equal"
  | notNumber => "float_type"
  | unreadableNumber => "float_parsing"
  | notBoolean => "bool_type"
  | unreadableBoolean => "bool_parsing"
  | notSequence => "tuple_type"
  | unknownSeverity => "enum"
  | forbidden => "extra_forbidden"
  | refused _ => "value_error"

end Problem

/-- A problem, the path of field names and positions that leads to it, and an echo of the value that
was found there. The empty path is the whole value. Where a value is missing, the object that lacks
it is echoed. -/
structure Fault where
  location : List String
  problem : Problem
  input : Echo
  deriving DecidableEq, Repr

/-- A part of a location; one with a point in it stands between grave accents. -/
def Fault.part (name : String) : String :=
  if '.' ∈ name.toList then "\x60" ++ name ++ "\x60" else name

/-- The text of a fault, with its value told as `quote` does. -/
def Fault.messageWith (quote : Echo → String) (f : Fault) : String :=
  let line := s!"  {f.problem.message} [type={f.problem.tag}{quote f.input}]"
  if f.location.isEmpty then line
  else ".".intercalate (f.location.map Fault.part) ++ "\n" ++ line

def Fault.message (f : Fault) : String := f.messageWith Echo.message

/-- A value that does not fit a record, with every fault in field order. -/
structure Rejection where
  schema : Schema
  faults : List Fault
  deriving DecidableEq, Repr

/-- The text of a rejection, with its values told as `quote` does. -/
def Rejection.messageWith (quote : Echo → String) (r : Rejection) : String :=
  let plural := if r.faults.length = 1 then "" else "s"
  let head := s!"{r.faults.length} validation error{plural} for {r.schema.name}"
  "\n".intercalate (head :: r.faults.map (Fault.messageWith quote))

def Rejection.message (r : Rejection) : String := r.messageWith Echo.message

/-- A value that passed its checks, or all the faults found. -/
inductive Checked (α : Type)
  | passed (a : α)
  | failed (faults : List Fault)
  deriving Repr

namespace Checked

def map {α β : Type} (f : α → β) : Checked α → Checked β
  | passed a => passed (f a)
  | failed fs => failed fs

/-- Applies a checked function to a checked argument; the faults of both are kept in order. -/
def app {α β : Type} (f : Checked (α → β)) (a : Unit → Checked α) : Checked β :=
  match f, a () with
  | passed f, passed a => passed (f a)
  | passed _, failed fs => failed fs
  | failed fs, passed _ => failed fs
  | failed fs, failed gs => failed (fs ++ gs)

instance : Functor Checked := ⟨map, fun a c => map (fun _ => a) c⟩

instance : Seq Checked := ⟨app⟩

/-- The outcome of a check of the field value `v`, which has at most one problem. -/
def ofExcept {α : Type} (field : String) (v : Value) : Except Problem α → Checked α
  | .ok a => passed a
  | .error p => failed [⟨[field], p, .of v⟩]

/-- The checked value, or its faults as a rejection by `schema`. -/
def toExcept {α : Type} (schema : Schema) : Checked α → Except Rejection α
  | passed a => .ok a
  | failed fs => .error ⟨schema, fs⟩

end Checked

end CredoAssistant
