import CredoAssistant.Stack
import CredoAssistant.Value

/-!
Reading JSON text. The reader works on lists of characters; a failure records how many characters
were left where it happened, so its place follows from the text alone. Beyond the standard grammar
`NaN`, `Infinity` and `-Infinity` are numbers, integers of more than 4300 digits are refused, and so
is a bracket that the stack has no room for.
-/
namespace CredoAssistant.Json

/-- What the reader missed or did not allow. -/
inductive Cause
  | value
  | name
  | colon
  | comma
  | extraData
  | unterminated
  | controlCharacter
  | escape
  | unicodeEscape
  | byteOrderMark
  deriving DecidableEq, Repr

def Cause.message : Cause → String
  | value => "Expecting value"
  | name => "Expecting property name enclosed in double quotes"
  | colon => "Expecting ':' delimiter"
  | comma => "Expecting ',' delimiter"
  | extraData => "Extra data"
  | unterminated => "Unterminated string starting at"
  | controlCharacter => "Invalid control character at"
  | escape => "Invalid \\escape"
  | unicodeEscape => "Invalid \\uXXXX escape"
  | byteOrderMark => "Unexpected UTF-8 BOM (decode using utf-8-sig)"

/-- What a bracket opens. -/
inductive Bracket
  | list
  | object
  deriving DecidableEq, Repr

def Bracket.name : Bracket → String
  | list => "array"
  | object => "object"

/-- Why a text is not read. `left` counts the characters from the place of the failure to the
end. -/
inductive Failure
  | malformed (cause : Cause) (left : Nat)
  | oversizedInteger (digits : Nat)
  | tooDeep (bracket : Bracket)
  deriving DecidableEq, Repr

/-- The greatest number of digits of an integer literal. -/
def maxDigits : Nat := 4300

/-- The place in `text` before its last `left` characters: line, column and offset. -/
def place (text : List Char) (left : Nat) : Nat × Nat × Nat :=
  let offset := text.length - left
  let before := text.take offset
  let line := before.count '\n' + 1
  let column := (before.reverse.takeWhile (· != '\n')).length + 1
  (line, column, offset)

/-- A cause with its place, counted in characters; lines end at line feeds only. -/
def located (cause : Cause) (text : List Char) (left : Nat) : String :=
  let (line, column, offset) := place text left
  s!"{cause.message}: line {line} column {column} (char {offset})"

/-- White space between tokens. -/
def isSpace (c : Char) : Bool := c == ' ' || c == '\t' || c == '\n' || c == '\r'

def skip (cs : List Char) : List Char := cs.dropWhile isSpace

def hexDigit? (c : Char) : Option Nat :=
  if '0' ≤ c ∧ c ≤ '9' then some (c.toNat - '0'.toNat)
  else if 'a' ≤ c ∧ c ≤ 'f' then some (c.toNat - 'a'.toNat + 10)
  else if 'A' ≤ c ∧ c ≤ 'F' then some (c.toNat - 'A'.toNat + 10)
  else none

/-- Four hexadecimal digits as one UTF-16 unit. -/
def unit? (a b c d : Char) : Option Nat := do
  let a ← hexDigit? a
  let b ← hexDigit? b
  let c ← hexDigit? c
  let d ← hexDigit? d
  some (((a * 16 + b) * 16 + c) * 16 + d)

def isHighSurrogate (n : Nat) : Bool := 0xD800 ≤ n && n ≤ 0xDBFF

def isLowSurrogate (n : Nat) : Bool := 0xDC00 ≤ n && n ≤ 0xDFFF

/-- The character of a surrogate pair. -/
def pairChar (high low : Nat) : Char :=
  Char.ofNat (0x10000 + (high - 0xD800) * 0x400 + (low - 0xDC00))

/-- The character of a unit; a surrogate without its partner becomes U+FFFD. -/
def unitChar (n : Nat) : Char :=
  if isHighSurrogate n || isLowSurrogate n then '\uFFFD' else Char.ofNat n

/-- The character that a backslash and `c` stand for. -/
def simpleEscape? (c : Char) : Option Char :=
  if c = '"' ∨ c = '\\' ∨ c = '/' then some c
  else if c = 'b' then some '\x08'
  else if c = 'f' then some '\x0c'
  else if c = 'n' then some '\n'
  else if c = 'r' then some '\r'
  else if c = 't' then some '\t'
  else none

/-- The low surrogate that an escape at the front of the text stands for, looked for behind a high
one. The escape must be followed by a further character. -/
def partner? : List Char → Except Failure (Option Nat)
  | '\\' :: 'u' :: h₁ :: h₂ :: h₃ :: h₄ :: last =>
    if last.isEmpty then .ok none
    else
      match unit? h₁ h₂ h₃ h₄ with
      | none => .error (.malformed .unicodeEscape (last.length + 5))
      | some m => .ok (if isLowSurrogate m then some m else none)
  | _ => .ok none

/-- Reads a text after its opening quotation mark; `opening` counts the characters from that mark on
and `acc` holds the characters read, last first. A `\u` escape must be followed by a further
character, as the closing mark is still to come. -/
def readText (opening : Nat) (acc : List Char) : List Char → Except Failure (List Char × List Char)
  | [] => .error (.malformed .unterminated opening)
  | c :: rest =>
    if c = '"' then .ok (acc.reverse, rest)
    else if c = '\\' then
      match rest with
      | [] => .error (.malformed .unterminated opening)
      | e :: more =>
        if e = 'u' then
          match more with
          | h₁ :: h₂ :: h₃ :: h₄ :: tail =>
            match unit? h₁ h₂ h₃ h₄ with
            | none => .error (.malformed .unicodeEscape (more.length + 1))
            | some n =>
              if tail.isEmpty then .error (.malformed .unicodeEscape (more.length + 1))
              else if isHighSurrogate n then
                match partner? tail with
                | .error f => .error f
                | .ok none => readText opening (unitChar n :: acc) tail
                | .ok (some m) =>
                  match tail with
                  | _ :: _ :: _ :: _ :: _ :: _ :: last =>
                    readText opening (pairChar n m :: acc) last
                  | _ => .error (.malformed .unterminated opening)
              else readText opening (unitChar n :: acc) tail
          | _ => .error (.malformed .unicodeEscape (more.length + 1))
        else
          match simpleEscape? e with
          | some d => readText opening (d :: acc) more
          | none => .error (.malformed .escape (rest.length + 1))
    else if c.toNat < 0x20 then .error (.malformed .controlCharacter (rest.length + 1))
    else readText opening (c :: acc) rest

/-- The fraction of a number: a point and at least one digit, or nothing. -/
def takeFraction : List Char → List Char × List Char
  | '.' :: d :: rest =>
    if d.isDigit then (d :: rest.takeWhile Char.isDigit, rest.dropWhile Char.isDigit)
    else ([], '.' :: d :: rest)
  | cs => ([], cs)

/-- The exponent of a number: a mark, an optional sign and at least one digit, or nothing. -/
def takeExponent : List Char → Option Int × List Char
  | mark :: rest =>
    if mark = 'e' ∨ mark = 'E' then
      let (below, power) := Binary64.takeSign rest
      let ds := power.takeWhile Char.isDigit
      if ds.isEmpty then (none, mark :: rest)
      else
        let n : Int := (Decimal.value ds : Nat)
        (some (if below then -n else n), power.dropWhile Char.isDigit)
    else (none, mark :: rest)
  | [] => (none, [])

/-- The digits before the point: a zero, or digits that start with another one. -/
def takeWhole : List Char → List Char × List Char
  | '0' :: rest => (['0'], rest)
  | cs => (cs.takeWhile Char.isDigit, cs.dropWhile Char.isDigit)

/-- Reads a number. Without fraction and exponent it is an integer. -/
def readNumber (cs : List Char) : Except Failure (Value × List Char) :=
  let (negative, body) :=
    match cs with
    | '-' :: rest => (true, rest)
    | _ => (false, cs)
  let (whole, afterWhole) := takeWhole body
  if whole.isEmpty then .error (.malformed .value cs.length)
  else
    let (fraction, afterFraction) := takeFraction afterWhole
    let (exponent, rest) := takeExponent afterFraction
    if fraction.isEmpty && exponent.isNone then
      if maxDigits < whole.length then .error (.oversizedInteger whole.length)
      else
        let n : Int := (Decimal.value whole : Nat)
        .ok (.int (if negative then -n else n), rest)
    else
      let power := exponent.getD 0 - fraction.length
      .ok (.float (Binary64.ofDecimal negative (Decimal.value (whole ++ fraction)) power), rest)

/-- The words that stand for a value. -/
def words : List (List Char × Value) :=
  [(['n', 'u', 'l', 'l'], .null),
   (['t', 'r', 'u', 'e'], .bool true),
   (['f', 'a', 'l', 's', 'e'], .bool false),
   (['N', 'a', 'N'], .float .nan),
   (['I', 'n', 'f', 'i', 'n', 'i', 't', 'y'], .float (.infinite false)),
   (['-', 'I', 'n', 'f', 'i', 'n', 'i', 't', 'y'], .float (.infinite true))]

/-- Reads a word at the front of the text. -/
def readWord? (cs : List Char) : Option (Value × List Char) :=
  words.findSome? fun (word, v) =>
    if word.isPrefixOf cs then some (v, cs.drop word.length) else none

/-- What room is left inside of a bracket, if it can be opened. -/
def enter (b : Bracket) : Nat → Except Failure Nat
  | 0 => .error (.tooDeep b)
  | room + 1 => .ok room

mutual

/-- Reads a value at the front of the text, with room for so many brackets. `fuel` bounds the
nesting and the members; the length of the text is always enough. -/
def readValue : Nat → Nat → List Char → Except Failure (Value × List Char)
  | 0, _, cs => .error (.malformed .value cs.length)
  | fuel + 1, room, cs =>
    match cs with
    | '"' :: rest => do
      let (s, rest) ← readText cs.length [] rest
      .ok (.text (String.ofList s), rest)
    | '{' :: rest => do
      let room ← enter .object room
      match skip rest with
      | '}' :: rest => .ok (.object [], rest)
      | rest => do
        let (ms, rest) ← readMembers fuel room [] rest
        .ok (.object (Entries.ofPairs ms), rest)
    | '[' :: rest => do
      let room ← enter .list room
      match skip rest with
      | ']' :: rest => .ok (.list [], rest)
      | rest => do
        let (items, rest) ← readItems fuel room [] rest
        .ok (.list items, rest)
    | _ =>
      match readWord? cs with
      | some found => .ok found
      | none => readNumber cs

/-- Reads the items of a list up to its closing bracket; `acc` holds those read, last first. -/
def readItems : Nat → Nat → List Value → List Char → Except Failure (List Value × List Char)
  | 0, _, _, cs => .error (.malformed .value cs.length)
  | fuel + 1, room, acc, cs => do
    let (v, rest) ← readValue fuel room cs
    match skip rest with
    | ']' :: rest => .ok ((v :: acc).reverse, rest)
    | ',' :: rest => readItems fuel room (v :: acc) (skip rest)
    | rest => .error (.malformed .comma rest.length)

/-- Reads the members of an object up to its closing brace; `acc` holds those read, last first. -/
def readMembers : Nat → Nat → List (String × Value) → List Char →
    Except Failure (List (String × Value) × List Char)
  | 0, _, _, cs => .error (.malformed .name cs.length)
  | fuel + 1, room, acc, cs =>
    match cs with
    | '"' :: rest => do
      let (k, rest) ← readText cs.length [] rest
      match skip rest with
      | ':' :: rest => do
        let (v, rest) ← readValue fuel room (skip rest)
        let ms := (String.ofList k, v) :: acc
        match skip rest with
        | '}' :: rest => .ok (ms.reverse, rest)
        | ',' :: rest => readMembers fuel room ms (skip rest)
        | rest => .error (.malformed .comma rest.length)
      | rest => .error (.malformed .colon rest.length)
    | _ => .error (.malformed .name cs.length)

end

/-- Reads a whole text as one value. -/
def read (stack : Stack) (cs : List Char) : Except Failure Value :=
  match cs with
  | '\uFEFF' :: _ => .error (.malformed .byteOrderMark cs.length)
  | _ => do
    let (v, rest) ← readValue (2 * cs.length + 2) stack.levels (skip cs)
    match skip rest with
    | [] => .ok v
    | rest => .error (.malformed .extraData rest.length)

end CredoAssistant.Json
