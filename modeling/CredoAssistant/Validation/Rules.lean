import CredoAssistant.Text.Blank
import CredoAssistant.Validation.Fault
import CredoAssistant.Value

/-!
Rules that turn dynamic values into texts, integers, numbers, booleans and lists of texts. Integers,
numbers and booleans also accept the other scalars that plainly stand for one.
-/
namespace CredoAssistant.Validation

open Text (isWhiteSpace trim)

/-- A text and nothing else. -/
def text : Value → Except Problem String
  | .text s => .ok s
  | _ => .error .notText

/-- An integer and nothing else. -/
def exactInteger : Value → Except Problem Int
  | .int i => .ok i
  | _ => .error .notInteger

/-- An integer in plain decimal digits: a minus at most before them, and no zero before other
digits. There are at most 4300 digits. -/
def plainInteger (cs : List Char) : Except Problem Int :=
  let negative := cs.head? == some '-'
  let body := if negative then cs.tail else cs
  let digits := body.takeWhile Char.isDigit
  let rest := body.dropWhile Char.isDigit
  let magnitude : Int := (Decimal.value digits : Nat)
  let value := if negative then -magnitude else magnitude
  match digits with
  | [] => .error .unreadableInteger
  | first :: more =>
    if first = '0' then
      if more.isEmpty && rest.isEmpty then .ok value else .error .unreadableInteger
    else if 4300 < digits.length then .error .oversizedInteger
    else if rest.isEmpty then .ok value
    else .error .unreadableInteger

/-- What follows a leading zero once further zeros and underscores are dropped. The last of the
zeros stays when a point or the end comes next; a minus may follow the zeros. -/
def dropZeros (before : Char) : List Char → Option (List Char)
  | [] => some [before]
  | c :: rest =>
    if c = '0' ∨ c = '_' then dropZeros c rest
    else if c = '.' then some (before :: c :: rest)
    else if c.isDigit ∨ c = '-' then some (c :: rest)
    else none

/-- A text whose point is followed by nothing but zeros, without them. -/
def dropZeroFraction (cs : List Char) : List Char :=
  match cs.dropWhile (· != '.') with
  | _ :: zeros =>
    if !zeros.isEmpty && zeros.all (· == '0') then cs.takeWhile (· != '.') else cs
  | [] => cs

/-- Whether a text neither starts nor ends with an underscore and no two of them meet in it. -/
def hasLoneUnderscores (cs : List Char) : Bool :=
  cs.head? != some '_' && cs.getLast? != some '_'
    && !(cs.zip cs.tail).any fun p => p.1 == '_' && p.2 == '_'

/-- The plain form of an integer that is written with blanks around it, a sign, leading zeros,
grouped digits, or a point and zeros behind it. -/
def tidyInteger? (cs : List Char) : Option (List Char) := do
  let signed := trim isWhiteSpace cs
  let negative := signed.head? == some '-'
  let body ←
    match signed with
    | '+' :: '-' :: _ => none
    | '+' :: rest => some rest
    | '-' :: rest => some rest
    | other => some other
  let significant ←
    match body with
    | [] => none
    | c :: rest => if c = '0' then dropZeros c rest else if c.isDigit then some body else none
  let whole := dropZeroFraction significant
  let joined := if hasLoneUnderscores whole then whole.filter (· != '_') else whole
  some (if negative then '-' :: joined else joined)

/-- The integer a text stands for: the plain form as it is, any other by its tidy form, whose faults
are all told alike. -/
def integerOfText (s : String) : Except Problem Int :=
  match plainInteger s.toList with
  | .error .unreadableInteger =>
    match (tidyInteger? s.toList).map plainInteger with
    | some (.ok i) => .ok i
    | _ => .error .unreadableInteger
  | answer => answer

/-- The integer a number stands for, when it is whole and strictly between the bounds of 64 bits. -/
def integerOfNumber (x : Binary64) : Except Problem Int :=
  match x with
  | .nan => .error .notFinite
  | .infinite _ => .error .notFinite
  | x =>
    match x.whole? with
    | none => .error .fractionalInteger
    | some i => if i.natAbs < 2 ^ 63 then .ok i else .error .oversizedInteger

/-- An integer, or a boolean, whole number or text that stands for one. -/
def integer : Value → Except Problem Int
  | .int i => .ok i
  | .bool b => .ok (if b then 1 else 0)
  | .float x => integerOfNumber x
  | .text s => integerOfText s
  | _ => .error .notInteger

/-- An integer above zero. -/
def positive (v : Value) : Except Problem Int := do
  let i ← integer v
  if 0 < i then .ok i else .error .notPositive

/-- The number a text stands for. Blanks may surround it; underscores that stand alone are ignored
in a text without blanks. -/
def numberOfText (s : String) : Except Problem Binary64 :=
  let cs := s.toList
  let joined := if hasLoneUnderscores cs then Binary64.read? (cs.filter (· != '_')) else none
  match Binary64.read? (trim isWhiteSpace cs) <|> joined with
  | some x => .ok x
  | none => .error .unreadableNumber

/-- A number, or a boolean, integer or text that stands for one. -/
def number : Value → Except Problem Binary64
  | .float x => .ok x
  | .int i =>
    match Binary64.ofInt i with
    | .infinite _ => .error .notNumber
    | x => .ok x
  | .bool b => .ok (Binary64.ofInt (if b then 1 else 0))
  | .text s => numberOfText s
  | _ => .error .notNumber

/-- A number that is zero or above. -/
def nonNegative (v : Value) : Except Problem Binary64 := do
  let x ← number v
  if x.isNonNegative then .ok x else .error .negative

/-- The boolean a word stands for, in any case. -/
def booleanOfText (s : String) : Except Problem Bool :=
  let word := String.ofList (s.toList.map Char.toLower)
  if ["1", "on", "t", "true", "y", "yes"].contains word then .ok true
  else if ["0", "off", "f", "false", "n", "no"].contains word then .ok false
  else .error .unreadableBoolean

/-- Zero and one as booleans. -/
def booleanOfInteger (i : Int) : Except Problem Bool :=
  if i = 0 then .ok false else if i = 1 then .ok true else .error .unreadableBoolean

/-- A boolean, or a number or word that stands for one. -/
def boolean : Value → Except Problem Bool
  | .bool b => .ok b
  | .int i =>
    if -(2 ^ 63) ≤ i ∧ i < 2 ^ 63 then booleanOfInteger i else .error .notBoolean
  | .float x =>
    match integerOfNumber x with
    | .ok i => booleanOfInteger i
    | .error _ => .error .notBoolean
  | .text s => booleanOfText s
  | _ => .error .notBoolean

/-- Null as absence, any other value by `rule`. -/
def nullable {α : Type} (rule : Value → Except Problem α) : Value → Except Problem (Option α)
  | .null => .ok none
  | v => some <$> rule v

/-- The faults of the items that are not texts, numbered from `i` on. -/
def itemFaults (field : String) (i : Nat) : List Value → List Fault
  | [] => []
  | .text _ :: rest => itemFaults field (i + 1) rest
  | v :: rest => ⟨[field, Decimal.text i], .notText, .of v⟩ :: itemFaults field (i + 1) rest

/-- The texts among the items. -/
def itemTexts (items : List Value) : List String :=
  items.filterMap fun
    | .text s => some s
    | _ => none

/-- A list of texts. -/
def texts (field : String) : Value → Checked (List String)
  | .list items =>
    match itemFaults field 0 items with
    | [] => .passed (itemTexts items)
    | faults => .failed faults
  | v => .failed [⟨[field], .notSequence, .of v⟩]

/-- A field that must be present. -/
def required {α : Type} (ms : Members) (field : String) (rule : Value → Except Problem α) :
    Checked α :=
  match Entries.get? field ms with
  | none => .failed [⟨[field], .missing, .of (.object ms)⟩]
  | some v => .ofExcept field v (rule v)

/-- A field that has a value when it is absent. -/
def defaulted {α : Type} (ms : Members) (field : String) (default : α)
    (rule : Value → Except Problem α) : Checked α :=
  match Entries.get? field ms with
  | none => .passed default
  | some v => .ofExcept field v (rule v)

end CredoAssistant.Validation
