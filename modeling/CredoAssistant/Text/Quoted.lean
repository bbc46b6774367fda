import CredoAssistant.Text.Printable
import CredoAssistant.Value

/-!
Quoted display of values in messages: texts between quotation marks with escapes, and the values
that contain them.
-/
namespace CredoAssistant.Text

/-- The `n` low hexadecimal digits of a code point. -/
def hex (n code : Nat) : List Char :=
  let ds := Nat.toDigits 16 code
  List.replicate (n - ds.length) '0' ++ ds

/-- One character of a quoted text. Backslash and the quotation mark are escaped, and so is every
character that is not printable. -/
def quotedChar (mark c : Char) : List Char :=
  if c = mark ∨ c = '\\' then ['\\', c]
  else if c = '\n' then ['\\', 'n']
  else if c = '\r' then ['\\', 'r']
  else if c = '\t' then ['\\', 't']
  else if isPrintable c then [c]
  else if c.toNat < 0x100 then '\\' :: 'x' :: hex 2 c.toNat
  else if c.toNat < 0x10000 then '\\' :: 'u' :: hex 4 c.toNat
  else '\\' :: 'U' :: hex 8 c.toNat

/-- Apostrophes surround a text, unless it holds an apostrophe and no double quotation mark. -/
def quotationMark (cs : List Char) : Char :=
  if cs.contains '\'' && !cs.contains '"' then '"' else '\''

/-- A text between quotation marks. -/
def quoted (s : String) : String :=
  let cs := s.toList
  let mark := quotationMark cs
  String.ofList (mark :: cs.flatMap (quotedChar mark) ++ [mark])

end CredoAssistant.Text

namespace CredoAssistant.Value

mutual

/-- A value as messages show it. -/
def display : Value → String
  | .null => "None"
  | .bool b => if b then "True" else "False"
  | .int i => Decimal.text i
  | .float x => x.text
  | .text s => Text.quoted s
  | .moment m => m.display
  | .list items => "[" ++ displayItems items ++ "]"
  | .object ms => "\x7b" ++ displayMembers ms ++ "\x7d"

def displayItems : List Value → String
  | [] => ""
  | [v] => display v
  | v :: rest => display v ++ ", " ++ displayItems rest

def displayMembers : List (String × Value) → String
  | [] => ""
  | [(k, v)] => Text.quoted k ++ ": " ++ display v
  | (k, v) :: rest => Text.quoted k ++ ": " ++ display v ++ ", " ++ displayMembers rest

end

end CredoAssistant.Value
