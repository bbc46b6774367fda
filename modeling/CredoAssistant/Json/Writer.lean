import CredoAssistant.Value

/-!
Writing JSON text in ASCII, on one line or indented by two blanks. Characters outside ASCII become
`\u` escapes, a surrogate pair for those beyond the basic plane.
-/
namespace CredoAssistant.Json

/-- A UTF-16 unit as an escape with four lower-case hexadecimal digits. -/
def unitEscape (n : Nat) : List Char :=
  let ds := Nat.toDigits 16 n
  '\\' :: 'u' :: (List.replicate (4 - ds.length) '0' ++ ds)

/-- One character inside a text. -/
def escapeChar (c : Char) : List Char :=
  if c = '"' ∨ c = '\\' then ['\\', c]
  else if c = '\n' then ['\\', 'n']
  else if c = '\r' then ['\\', 'r']
  else if c = '\t' then ['\\', 't']
  else if c = '\x08' then ['\\', 'b']
  else if c = '\x0c' then ['\\', 'f']
  else
    let n := c.toNat
    if 0x20 ≤ n ∧ n < 0x7F then [c]
    else if n < 0x10000 then unitEscape n
    else
      let m := n - 0x10000
      unitEscape (0xD800 + m / 0x400) ++ unitEscape (0xDC00 + m % 0x400)

/-- A text between quotation marks. -/
def writeText (s : String) : List Char :=
  '"' :: s.toList.flatMap escapeChar ++ ['"']

/-- How items are separated: on one line, or each on its own line. -/
inductive Layout
  | line
  | indented
  deriving DecidableEq, Repr

/-- What stands before an item at nesting `depth`. -/
def Layout.gap (layout : Layout) (depth : Nat) : List Char :=
  match layout with
  | .line => []
  | .indented => '\n' :: List.replicate (2 * depth) ' '

/-- What stands between two items at nesting `depth`. -/
def Layout.separator (layout : Layout) (depth : Nat) : List Char :=
  match layout with
  | .line => [',', ' ']
  | .indented => ',' :: layout.gap depth

/-- A number that is not an integer. -/
def writeFloat (x : Binary64) : List Char :=
  match x with
  | .nan => "NaN".toList
  | .infinite false => "Infinity".toList
  | .infinite true => "-Infinity".toList
  | x => x.text.toList

mutual

/-- Writes a value at nesting `depth`. -/
def write (layout : Layout) (depth : Nat) : Value → List Char
  | .null => "null".toList
  | .bool true => "true".toList
  | .bool false => "false".toList
  | .int i => Decimal.integer i
  | .float x => writeFloat x
  | .text s => writeText s
  | .moment m => writeText m.text
  | .list [] => ['[', ']']
  | .list (v :: vs) =>
    '[' :: layout.gap (depth + 1) ++ write layout (depth + 1) v
      ++ writeItems layout (depth + 1) vs ++ layout.gap depth ++ [']']
  | .object [] => ['{', '}']
  | .object ((k, v) :: ms) =>
    '{' :: layout.gap (depth + 1) ++ writeText k ++ [':', ' '] ++ write layout (depth + 1) v
      ++ writeMembers layout (depth + 1) ms ++ layout.gap depth ++ ['}']

/-- Writes the items after the first one, each behind a separator. -/
def writeItems (layout : Layout) (depth : Nat) : List Value → List Char
  | [] => []
  | v :: vs => layout.separator depth ++ write layout depth v ++ writeItems layout depth vs

/-- Writes the members after the first one, each behind a separator. -/
def writeMembers (layout : Layout) (depth : Nat) : List (String × Value) → List Char
  | [] => []
  | (k, v) :: ms =>
    layout.separator depth ++ writeText k ++ [':', ' '] ++ write layout depth v
      ++ writeMembers layout depth ms

end

/-- A value as JSON text. -/
def render (layout : Layout) (v : Value) : String := String.ofList (write layout 0 v)

end CredoAssistant.Json
