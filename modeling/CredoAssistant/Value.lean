import CredoAssistant.Entries
import CredoAssistant.Moment
import CredoAssistant.Number.Notation

/-!
Dynamic values: what reports, configuration files, editor preferences and host payloads hold before
they are validated.
-/
namespace CredoAssistant

/-- A value of a data format. Object members keep the order of their first insertion. -/
inductive Value
  | null
  | bool (b : Bool)
  | int (i : Int)
  | float (x : Binary64)
  | text (s : String)
  | moment (m : Moment)
  | list (items : List Value)
  | object (members : List (String × Value))
  deriving Repr, Inhabited

/-- The members of an object. -/
abbrev Members := Entries String Value

namespace Value

/-- The member `key` of an object; other values have none. -/
def member? (key : String) : Value → Option Value
  | object ms => Entries.get? key ms
  | _ => none

def isNull : Value → Bool
  | null => true
  | _ => false

/-- Whether a preference counts as set: everything except null, false, zero and the empty text, list
and object. NaN counts as set. -/
def isTruthy : Value → Bool
  | null => false
  | bool b => b
  | int i => i != 0
  | float x => !x.isZero
  | text s => s != ""
  | moment _ => true
  | list items => !items.isEmpty
  | object ms => !ms.isEmpty

/-- A list of texts. -/
def texts (ss : List String) : Value := list (ss.map text)

/-- An optional value, null when absent. -/
def optional {α : Type} (f : α → Value) : Option α → Value
  | none => null
  | some a => f a

end Value

end CredoAssistant
