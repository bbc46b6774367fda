import CredoAssistant.Json.Reader
import CredoAssistant.Text.Quoted

/-!
Keys and scalar values of a TOML document: quoted texts, numbers, dates and times. Like the reader
of JSON, a failure records how many characters were left where it happened.
-/
namespace CredoAssistant.Toml

/-! ### Failures -/

/-- A dotted key as its parts. -/
abbrev Key := List String

/-- A key in messages: its quoted parts between parentheses. -/
def displayKey : Key → String
  | [k] => s!"({Text.quoted k},)"
  | ks => "(" ++ ", ".intercalate (ks.map Text.quoted) ++ ")"

/-- What the reader missed or did not allow. -/
inductive Cause
  | statement
  | endOfLine
  | closing (mark : String)
  | invalidCharacter (c : Char)
  | illegalCharacter (c : Char)
  | declaredTwice (key : Key)
  | immutable (key : Key)
  | redefined (key : Key)
  | overwritten
  | duplicate (key : String)
  | tableName
  | arrayName
  | equals
  | keyPart
  | array
  | inlineTable
  | backslash
  | hexadecimal
  | scalarValue
  | unterminated
  | moment
  | value
  deriving DecidableEq, Repr

def Cause.message : Cause → String
  | statement => "Invalid statement"
  | endOfLine => "Expected newline or end of document after a statement"
  | closing mark => s!"Expected {Text.quoted mark}"
  | invalidCharacter c => s!"Found invalid character {Text.quoted (String.singleton c)}"
  | illegalCharacter c => s!"Illegal character {Text.quoted (String.singleton c)}"
  | declaredTwice key => s!"Cannot declare {displayKey key} twice"
  | immutable key => s!"Cannot mutate immutable namespace {displayKey key}"
  | redefined key => s!"Cannot redefine namespace {displayKey key}"
  | overwritten => "Cannot overwrite a value"
  | duplicate key => s!"Duplicate inline table key {Text.quoted key}"
  | tableName => "Expected ']' at the end of a table declaration"
  | arrayName => "Expected ']]' at the end of an array declaration"
  | equals => "Expected '=' after a key in a key/value pair"
  | keyPart => "Invalid initial character for a key part"
  | array => "Unclosed array"
  | inlineTable => "Unclosed inline table"
  | backslash => "Unescaped '\\' in a string"
  | hexadecimal => "Invalid hex value"
  | scalarValue => "Escaped character is not a Unicode scalar value"
  | unterminated => "Unterminated string"
  | moment => "Invalid date or datetime"
  | value => "Invalid value"

/-- Why a document is not read. `left` counts the characters from the place of the failure to the
end. -/
inductive Failure
  | malformed (cause : Cause) (left : Nat)
  | oversizedInteger (digits : Nat)
  | tooDeep
  deriving DecidableEq, Repr

/-- A cause with its place in the document. -/
def located (cause : Cause) (text : List Char) (left : Nat) : String :=
  if left = 0 then s!"{cause.message} (at end of document)"
  else
    let (line, column, _) := Json.place text left
    s!"{cause.message} (at line {line}, column {column})"

/-- Fails at the front of `cs`. -/
def failAt {α : Type} (cause : Cause) (cs : List Char) : Except Failure α :=
  .error (.malformed cause cs.length)

/-! ### Keys and values -/

def isBlank (c : Char) : Bool := c == ' ' || c == '\t'

def isBlankOrNewline (c : Char) : Bool := isBlank c || c == '\n'

/-- Control characters other than the tabulator. -/
def isControl (c : Char) : Bool := (c.toNat < 0x20 && c != '\t') || c.toNat == 0x7F

/-- Control characters that a text over several lines does not allow. -/
def isInnerControl (c : Char) : Bool := isControl c && c != '\n'

def isBareKeyChar (c : Char) : Bool :=
  ('a' ≤ c && c ≤ 'z') || ('A' ≤ c && c ≤ 'Z') || c.isDigit || c == '-' || c == '_'

def skipBlanks (cs : List Char) : List Char := cs.dropWhile isBlank

/-- The front of `cs` up to the first occurrence of `mark`, and what follows from there on. -/
def splitAtMark (mark : List Char) (before : List Char) : List Char → Option (List Char × List Char)
  | [] => if mark.isEmpty then some (before.reverse, []) else none
  | c :: rest =>
    if mark.isPrefixOf (c :: rest) then some (before.reverse, c :: rest)
    else splitAtMark mark (c :: before) rest

/-- Takes everything up to `mark`, which must come, and refuses the characters of a class in it. -/
def takeUntil (mark : String) (refused : Char → Bool) (cs : List Char) :
    Except Failure (List Char × List Char) :=
  match splitAtMark mark.toList [] cs with
  | none => .error (.malformed (.closing mark) 0)
  | some (front, rest) =>
    match front.find? refused with
    | some c => failAt (.invalidCharacter c) (cs.dropWhile fun x => !refused x)
    | none => .ok (front, rest)

/-- A comment up to the end of its line. -/
def skipComment (cs : List Char) : Except Failure (List Char) :=
  match cs with
  | '#' :: body =>
    let line := body.takeWhile (· != '\n')
    match line.find? isControl with
    | some c => failAt (.invalidCharacter c) (body.dropWhile fun x => !isControl x)
    | none => .ok (body.dropWhile (· != '\n'))
  | _ => .ok cs

/-- Blanks, line ends and comments inside an array. -/
def skipFiller : Nat → List Char → Except Failure (List Char)
  | 0, cs => .ok cs
  | fuel + 1, cs =>
    match skipComment (cs.dropWhile isBlankOrNewline) with
    | .error f => .error f
    | .ok rest => if rest.length < cs.length then skipFiller fuel rest else .ok rest

/-- The character behind `\u` or `\U`, written with `n` hexadecimal digits. -/
def readHexChar (n : Nat) (cs : List Char) : Except Failure (List Char × List Char) :=
  let ds := cs.take n
  let code := ds.foldl (fun acc c => acc * 16 + (Json.hexDigit? c).getD 0) 0
  if ds.length = n ∧ ds.all (fun c => (Json.hexDigit? c).isSome) then
    let rest := cs.drop n
    if code < 0xD800 ∨ (0xE000 ≤ code ∧ code ≤ 0x10FFFF) then .ok ([Char.ofNat code], rest)
    else failAt .scalarValue rest
  else failAt .hexadecimal cs

/-- The character that a backslash and `c` stand for. -/
def simpleEscape? (c : Char) : Option Char :=
  if c = 'b' then some '\x08'
  else if c = 't' then some '\t'
  else if c = 'n' then some '\n'
  else if c = 'f' then some '\x0c'
  else if c = 'r' then some '\r'
  else if c = '"' ∨ c = '\\' then some c
  else none

/-- Reads an escape after its backslash. In a text over several lines a backslash at the end of a
line stands for nothing and takes the white space behind it along. -/
def readEscape (multiline : Bool) (cs : List Char) : Except Failure (List Char × List Char) :=
  match cs with
  | [] => .error (.malformed .backslash 0)
  | c :: rest =>
    if multiline && c == '\n' then .ok ([], rest.dropWhile isBlankOrNewline)
    else if multiline && isBlank c then
      match skipBlanks rest with
      | [] => .ok ([], [])
      | '\n' :: tail => .ok ([], tail.dropWhile isBlankOrNewline)
      | other => failAt .backslash other
    else if c = 'u' then readHexChar 4 rest
    else if c = 'U' then readHexChar 8 rest
    else
      match simpleEscape? c with
      | some d => .ok ([d], rest)
      | none => failAt .backslash rest

/-- Reads a text in double quotation marks after the opening ones. -/
def readBasic (multiline : Bool) :
    Nat → List Char → List Char → Except Failure (List Char × List Char)
  | 0, _, _ => .error (.malformed .unterminated 0)
  | fuel + 1, acc, cs =>
    match cs with
    | [] => .error (.malformed .unterminated 0)
    | '"' :: rest =>
      if multiline then
        match rest with
        | '"' :: '"' :: tail => .ok (acc.reverse, tail)
        | _ => readBasic multiline fuel ('"' :: acc) rest
      else .ok (acc.reverse, rest)
    | '\\' :: rest =>
      match readEscape multiline rest with
      | .error f => .error f
      | .ok (piece, tail) => readBasic multiline fuel (piece.reverse ++ acc) tail
    | c :: rest =>
      if (if multiline then isInnerControl c else isControl c) then
        failAt (.illegalCharacter c) (c :: rest)
      else readBasic multiline fuel (c :: acc) rest

/-- Up to two more quotation marks in front of the closing ones belong to the text. -/
def takeExtraMarks (mark : Char) (s : List Char) (cs : List Char) : List Char × List Char :=
  match cs with
  | a :: b :: rest =>
    if a = mark then if b = mark then (s ++ [mark, mark], rest) else (s ++ [mark], b :: rest)
    else (s, cs)
  | [a] => if a = mark then (s ++ [mark], []) else (s, cs)
  | [] => (s, [])

def dropNewline : List Char → List Char
  | '\n' :: rest => rest
  | cs => cs

/-- A text in double quotation marks on one line, after the opening mark. -/
def readLineText (cs : List Char) : Except Failure (List Char × List Char) :=
  readBasic false (cs.length + 1) [] cs

/-- A text in apostrophes on one line, after the opening mark. -/
def readLiteral (cs : List Char) : Except Failure (List Char × List Char) :=
  match takeUntil "'" isControl cs with
  | .error f => .error f
  | .ok (s, rest) => .ok (s, rest.drop 1)

/-- A text in double quotation marks over several lines, after the opening marks. -/
def readLongText (cs : List Char) : Except Failure (List Char × List Char) :=
  let body := dropNewline cs
  match readBasic true (body.length + 1) [] body with
  | .error f => .error f
  | .ok (s, rest) => .ok (takeExtraMarks '"' s rest)

/-- A text in apostrophes over several lines, after the opening marks. -/
def readLongLiteral (cs : List Char) : Except Failure (List Char × List Char) :=
  match takeUntil "'''" isInnerControl (dropNewline cs) with
  | .error f => .error f
  | .ok (s, rest) => .ok (takeExtraMarks '\'' s (rest.drop 3))

/-- One part of a key. -/
def readKeyPart (cs : List Char) : Except Failure (String × List Char) :=
  match cs with
  | '\'' :: rest => do
    let (s, rest) ← readLiteral rest
    .ok (String.ofList s, rest)
  | '"' :: rest => do
    let (s, rest) ← readLineText rest
    .ok (String.ofList s, rest)
  | _ =>
    let part := cs.takeWhile isBareKeyChar
    if part.isEmpty then failAt .keyPart cs
    else .ok (String.ofList part, cs.dropWhile isBareKeyChar)

/-- The parts of a key between points, up to its end and the blanks behind it. -/
def readKeyParts : Nat → List Char → Except Failure (Key × List Char)
  | 0, cs => failAt .keyPart cs
  | fuel + 1, cs => do
    let (part, rest) ← readKeyPart cs
    match skipBlanks rest with
    | '.' :: tail => do
      let (parts, rest) ← readKeyParts fuel (skipBlanks tail)
      .ok (part :: parts, rest)
    | rest => .ok ([part], rest)

def readKey (cs : List Char) : Except Failure (Key × List Char) := readKeyParts (cs.length + 1) cs

/-- Digits of a class with single underscores between them: the digits and the rest. -/
def takeGrouped (p : Char → Bool) : List Char → List Char × List Char
  | '_' :: d :: rest =>
    if p d then let (ds, tail) := takeGrouped p rest; (d :: ds, tail) else ([], '_' :: d :: rest)
  | d :: rest =>
    if p d then let (ds, tail) := takeGrouped p rest; (d :: ds, tail) else ([], d :: rest)
  | [] => ([], [])

/-- Grouped digits that start with a digit. -/
def takeDigits (p : Char → Bool) (cs : List Char) : List Char × List Char :=
  match cs with
  | '_' :: _ => ([], cs)
  | _ => takeGrouped p cs

/-- An integer in a base of two, eight or sixteen, after its leading zero. -/
def readBased? (cs : List Char) : Option (Nat × List Char) :=
  let based (base : Nat) (p : Char → Bool) (rest : List Char) : Option (Nat × List Char) :=
    let (ds, tail) := takeDigits p rest
    if ds.isEmpty then none
    else some (ds.foldl (fun acc c => acc * base + (Json.hexDigit? c).getD 0) 0, tail)
  match cs with
  | 'x' :: rest => based 16 (fun c => (Json.hexDigit? c).isSome) rest
  | 'b' :: rest => based 2 (fun c => c == '0' || c == '1') rest
  | 'o' :: rest => based 8 (fun c => '0' ≤ c && c ≤ '7') rest
  | _ => none

/-- The fraction of a number: a point and grouped digits, or nothing. -/
def takeFraction (cs : List Char) : List Char × List Char :=
  match cs with
  | '.' :: rest =>
    let (ds, tail) := takeDigits Char.isDigit rest
    if ds.isEmpty then ([], cs) else (ds, tail)
  | _ => ([], cs)

/-- The exponent of a number: a mark, a sign and grouped digits, or nothing. -/
def takeExponent (cs : List Char) : Option Int × List Char :=
  match cs with
  | mark :: rest =>
    if mark = 'e' ∨ mark = 'E' then
      let (below, power) := Binary64.takeSign rest
      let (ds, tail) := takeDigits Char.isDigit power
      if ds.isEmpty then (none, cs)
      else
        let n : Int := (Decimal.value ds : Nat)
        (some (if below then -n else n), tail)
    else (none, cs)
  | [] => (none, cs)

/-- The whole part of a number: a zero alone, or grouped digits. -/
def takeWhole (cs : List Char) : List Char × List Char :=
  match cs with
  | '0' :: tail => (['0'], tail)
  | _ => takeDigits Char.isDigit cs

/-- A decimal integer, or a number with fraction or exponent. -/
def readDecimal? (cs : List Char) : Option (Except Failure Value × List Char) :=
  let (negative, body) := Binary64.takeSign cs
  let (whole, rest) := takeWhole body
  if whole.isEmpty then none
  else
    let (fraction, rest) := takeFraction rest
    let (exponent, rest) := takeExponent rest
    if fraction.isEmpty && exponent.isNone then
      let n : Int := (Decimal.value whole : Nat)
      let v : Except Failure Value :=
        if Json.maxDigits < whole.length then .error (.oversizedInteger whole.length)
        else .ok (.int (if negative then -n else n))
      some (v, rest)
    else
      let power := exponent.getD 0 - fraction.length
      let x := Binary64.ofDecimal negative (Decimal.value (whole ++ fraction)) power
      some (.ok (.float x), rest)

/-- Exactly `n` decimal digits. -/
def fixedDigits? (n : Nat) (cs : List Char) : Option (Nat × List Char) :=
  let ds := cs.take n
  if ds.length = n ∧ ds.all Char.isDigit then some (Decimal.value ds, cs.drop n) else none

def expect? (c : Char) : List Char → Option (List Char)
  | d :: rest => if d = c then some rest else none
  | [] => none

/-- Two digits no greater than `limit`. -/
def twoDigits? (low limit : Nat) (cs : List Char) : Option (Nat × List Char) := do
  let (n, rest) ← fixedDigits? 2 cs
  if low ≤ n ∧ n ≤ limit then some (n, rest) else none

/-- A time of day; digits past the sixth place of the second are dropped. -/
def readClock? (cs : List Char) : Option (Clock × List Char) := do
  let (hour, rest) ← twoDigits? 0 23 cs
  let rest ← expect? ':' rest
  let (minute, rest) ← twoDigits? 0 59 rest
  let rest ← expect? ':' rest
  let (second, rest) ← twoDigits? 0 59 rest
  match rest with
  | '.' :: tail =>
    let ds := tail.takeWhile Char.isDigit
    if ds.isEmpty then some (⟨hour, minute, second, 0⟩, rest)
    else
      let six := ds.take 6
      let micro := Decimal.value six * 10 ^ (6 - six.length)
      some (⟨hour, minute, second, micro⟩, tail.dropWhile Char.isDigit)
  | _ => some (⟨hour, minute, second, 0⟩, rest)

/-- An offset from UTC in minutes, when one follows. -/
def readOffset (cs : List Char) : Option Int × List Char :=
  match cs with
  | c :: rest =>
    if c = 'Z' ∨ c = 'z' then (some 0, rest)
    else if c = '+' ∨ c = '-' then
      let read : Option (Int × List Char) := do
        let (hour, rest) ← twoDigits? 0 23 rest
        let rest ← expect? ':' rest
        let (minute, rest) ← twoDigits? 0 59 rest
        let n : Int := (hour * 60 + minute : Nat)
        some (if c = '-' then -n else n, rest)
      match read with
      | some (n, rest) => (some n, rest)
      | none => (none, cs)
    else (none, cs)
  | [] => (none, cs)

/-- A date with the form of one; whether the day exists is another question. -/
def readDate? (cs : List Char) : Option (Date × List Char) := do
  let (year, rest) ← fixedDigits? 4 cs
  let rest ← expect? '-' rest
  let (month, rest) ← twoDigits? 1 12 rest
  let rest ← expect? '-' rest
  let (day, rest) ← twoDigits? 1 31 rest
  some (⟨year, month, day⟩, rest)

/-- A date, alone or with a time behind it. -/
def readMoment? (cs : List Char) : Option (Date × Moment × List Char) := do
  let (d, rest) ← readDate? cs
  match rest with
  | mark :: tail =>
    if mark = 'T' ∨ mark = 't' ∨ mark = ' ' then
      match readClock? tail with
      | some (t, rest) =>
        let (offset, rest) := readOffset rest
        some (d, .dateTime d t offset, rest)
      | none => some (d, .date d, rest)
    else some (d, .date d, rest)
  | [] => some (d, .date d, rest)

/-- A number or a name of infinity or NaN. -/
def readNumber (cs : List Char) : Except Failure (Value × List Char) :=
  match cs with
  | '0' :: rest =>
    match readBased? rest with
    | some (n, tail) => .ok (.int n, tail)
    | none => plain
  | _ => plain
where
  plain : Except Failure (Value × List Char) :=
    match readDecimal? cs with
    | some (v, rest) => v.map fun v => (v, rest)
    | none =>
      match Binary64.takeSign cs with
      | (negative, 'i' :: 'n' :: 'f' :: rest) => .ok (.float (.infinite negative), rest)
      | (_, 'n' :: 'a' :: 'n' :: rest) => .ok (.float .nan, rest)
      | _ => failAt .value cs

/-- A date, a time or a number. -/
def readPlain (cs : List Char) : Except Failure (Value × List Char) :=
  match readMoment? cs with
  | some (d, m, rest) => if d.isValid then .ok (.moment m, rest) else failAt .moment cs
  | none =>
    match readClock? cs with
    | some (t, rest) => .ok (.moment (.clock t), rest)
    | none => readNumber cs

end CredoAssistant.Toml
