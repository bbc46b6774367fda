import CredoAssistant.Text.Quoted

/-!
Echoes of refused values. A message quotes the value that does not fit: as it is shown, with the
middle left out when it is long, and with the name of its type.
-/
namespace CredoAssistant

/-- What a message tells of a value. -/
structure Echo where
  shown : String
  kind : String
  deriving DecidableEq, Repr

namespace Echo

/-- The longest front of a text that takes at most so many bytes. -/
def front : Nat → List Char → List Char
  | _, [] => []
  | room, c :: rest => if c.utf8Size ≤ room then c :: front (room - c.utf8Size) rest else []

/-- A text of at most 50 bytes; of a longer one the first 25 and the last 24 are left. -/
def shorten (s : String) : String :=
  if s.utf8ByteSize ≤ 50 then s
  else
    let cs := s.toList
    String.ofList (front 25 cs ++ '.' :: '.' :: '.' :: (front 24 cs.reverse).reverse)

/-- The name of the type of a value. -/
def kindOf : Value → String
  | .null => "NoneType"
  | .bool _ => "bool"
  | .int _ => "int"
  | .float _ => "float"
  | .text _ => "str"
  | .moment (.date _) => "date"
  | .moment (.clock _) => "time"
  | .moment (.dateTime ..) => "datetime"
  | .list _ => "list"
  | .object _ => "dict"

mutual

/-- Whether a value can be shown: its integers have at most 4300 digits. -/
def isShowable : Value → Bool
  | .int i => (Decimal.digits i.natAbs).length ≤ 4300
  | .list items => areShowable items
  | .object ms => haveShowable ms
  | _ => true

def areShowable : List Value → Bool
  | [] => true
  | v :: rest => isShowable v && areShowable rest

def haveShowable : List (String × Value) → Bool
  | [] => true
  | m :: rest => isShowable m.2 && haveShowable rest

end

/-- The echo of a value. -/
def of (v : Value) : Echo :=
  let shown := if isShowable v then v.display else "<unprintable " ++ kindOf v ++ " object>"
  ⟨shorten shown, kindOf v⟩

/-- The echo in a message. -/
def message (e : Echo) : String := ", input_value=" ++ e.shown ++ ", input_type=" ++ e.kind

end Echo

end CredoAssistant
