import CredoAssistant.Shell.Program.Options
import CredoAssistant.Shell.Redirection

/-!
What programs have in common: names in their messages, between the quotation marks of the locale or
as a shell would take them, files that are read line by line, and numbers with units behind them.
-/
namespace CredoAssistant.Shell.Program

/-- The variables that name the locale of characters, the strongest first. -/
def localeVariables : List String := ["LC_ALL", "LC_CTYPE", "LANG"]

/-- Whether the locale of this process is one of UTF-8. -/
def usesUtf8 : Run Bool := do
  let values ← localeVariables.filterMapM Run.value?
  pure ((values.find? (· != "")).any ["C.UTF-8", "C.utf8"].contains)

/-- A string of bytes as the characters of the locale. -/
def charactersIn (utf8 : Bool) (cs : List Char) : List Char :=
  if utf8 then Octets.toCharacters cs else cs

/-- The bytes of such characters. -/
def bytesIn (utf8 : Bool) (cs : List Char) : List Char :=
  if utf8 then Octets.ofCharacters cs else cs

/-- Characters that a shell does not take as they are. -/
def isShellSign (c : Char) : Bool := " !\"$&()*;<=>[^`|?\\':".toList.contains c

/-- Whether a character cannot be printed, which depends on the locale for bytes past ASCII. -/
def isControl (utf8 : Bool) (c : Char) : Bool := c < ' ' || c == '\x7f' || (!utf8 && '\x80' ≤ c)

/-- A control character as an escape. -/
def controlEscape (c : Char) : List Char :=
  let named : List (Char × Char) :=
    [('\x07', 'a'), ('\x08', 'b'), ('\x0c', 'f'), ('\n', 'n'), ('\r', 'r'), ('\t', 't'),
      ('\x0b', 'v')]
  match named.find? fun e => e.1 == c with
  | some e => ['\\', e.2]
  | none =>
    let ds := Nat.toDigits 8 c.toNat
    '\\' :: List.replicate (3 - ds.length) '0' ++ ds

/-- A text between quotation marks, in which marks, backslashes and control characters are
escaped. -/
def quotedIn (utf8 : Bool) (s : String) : String :=
  let cs := if utf8 then Octets.toCharacters s.toList else s.toList
  let shown (c : Char) : List Char :=
    if c = '\\' then ['\\', '\\']
    else if utf8 && c == '’' then '\\' :: Octets.ofChars ['’']
    else if !utf8 && c == '\'' then ['\\', '\'']
    else if Octets.firstApart ≤ c.toNat then
      controlEscape (Char.ofNat (c.toNat - Octets.firstApart))
    else if isControl utf8 c then controlEscape c
    else if utf8 then Octets.ofChars [c]
    else [c]
  let body := String.ofList (cs.flatMap shown)
  if utf8 then Octets.ofText "‘" ++ body ++ Octets.ofText "’" else "'" ++ body ++ "'"

/-- A text between quotation marks of the locale. -/
def named (s : String) : Run String := do return quotedIn (← usesUtf8) s

/-- Characters between single quotation marks; `open` says that such a mark is open. -/
def singleQuoted (utf8 : Bool) : Bool → List Char → List Char
  | isOpen, [] => if isOpen then ['\''] else []
  | isOpen, c :: rest =>
    if isControl utf8 c then
      let lead := if isOpen then "'$'".toList else "$'".toList
      let run := controlEscape c
      lead ++ run ++ ['\''] ++ (if rest.isEmpty then [] else singleQuoted utf8 false rest)
    else if c = '\'' then
      (if isOpen then ['\''] else []) ++ "\\'".toList ++
        (if rest.isEmpty then [] else '\'' :: singleQuoted utf8 true rest)
    else (if isOpen then [] else ['\'']) ++ c :: singleQuoted utf8 true rest

/-- A name as a shell would take it. With `always` it is quoted even when it need not be. -/
def shellName (always : Bool) (s : String) : Run String := do
  let utf8 ← usesUtf8
  let cs := s.toList
  let isPlainInDouble (c : Char) : Bool :=
    c.isAlphanum || " '%+,-./:]_#~@".toList.contains c || '\x80' ≤ c
  if cs.isEmpty then pure "''"
  else if cs == ['\x7b'] || cs == ['\x7d'] then pure ("'" ++ s ++ "'")
  else if !always && !cs.any isShellSign && !cs.any (isControl utf8)
      && !(cs.head?.any fun c => c == '#' || c == '~') then pure s
  else if cs.contains '\'' && cs.all isPlainInDouble && !cs.any (isControl utf8) then
    pure ("\"" ++ s ++ "\"")
  else pure (String.ofList ('\'' :: singleQuoted utf8 true cs))

/-- The last of some options that was given. -/
def lastOf (a : Arguments) (cs : List Char) : Option Char :=
  ((a.options.filter fun o => cs.contains o.1).getLast?).map Prod.fst

/-- The names of a value, which bars keep apart. -/
def synonyms (names : String) : List String := names.splitOn "|"

/-- What a word stands for that may be cut short, or why it stands for nothing. -/
def chosen? {α : Type} (values : List (String × α)) (word : String) : Except String α :=
  let exactly := values.find? fun v => (synonyms v.1).contains word
  match exactly, values.filter fun v => (synonyms v.1).any fun n => n.startsWith word with
  | some v, _ => .ok v.2
  | none, [v] => .ok v.2
  | none, [] => .error "invalid"
  | none, _ => .error "ambiguous"

/-- Complains about a value that stands for none of those that an option knows. -/
def refuseChoice {α β : Type} (self option value word : String) (values : List (String × α)) :
    Run β := do
  let utf8 ← usesUtf8
  complain self s!"{word} argument {quotedIn utf8 value} for {quotedIn utf8 option}"
  Run.say 2 "Valid arguments are:\n"
  values.forM fun v => do
    let names := ", ".intercalate ((synonyms v.1).map (quotedIn utf8))
    Run.say 2 s!"  - {names}\n"
  hint self 1

/-- The value that an option stands for, which may be cut short. -/
def choice {α : Type} (self option value : String) (values : List (String × α)) : Run α := do
  match chosen? values value with
  | .ok x => pure x
  | .error word => refuseChoice self option value word values

/-- The value that an option stands for, which may not be cut short. -/
def exactChoice {α : Type} (self option value : String) (values : List (String × α)) : Run α := do
  match values.find? fun v => (synonyms v.1).contains value with
  | some v => pure v.2
  | none => refuseChoice self option value "invalid" values

/-- Opens a file for a program: its handle. -/
def openForProgram (opening : Opening) (file : String) : Run (Except Fault Nat) := do
  match ← Run.openFile opening file with
  | .ok h => do return .ok (← Run.newHandle h)
  | .error fault => pure (.error fault)

/-- Writes to the file behind a handle; whether that was possible. -/
def writeTo (id : Nat) (cs : List Char) : Run Bool := do
  let streams := (← get).streams
  Run.connect 9 id
  let done ← Run.write 9 cs
  modify fun m => { m with streams }
  pure (done || cs.isEmpty)

/-- Makes a file with some contents. -/
def writeFile (file : String) (cs : List Char) : Run (Except Fault Unit) := do
  match ← openForProgram .write file with
  | .error fault => pure (.error fault)
  | .ok id => do return if ← writeTo id cs then .ok () else .error .full

/-- Complains about a file that cannot be read. -/
def cannotRead (self : String) (file : String) (fault : Fault) : Run Unit := do
  complain self s!"{← shellName false file}: {fault.reason}"

/-- Whether there is no input at all, so that it cannot be closed either. -/
def lacksInput : Run Bool := do return (← Run.handle? 0).isNone

/-- Complains about input that cannot be closed, if it was read; whether that was so. -/
def closeInput (self : String) (files : List String) : Run Bool := do
  if files.contains "-" && (← lacksInput) then do
    complain self s!"-: {Fault.badStream.reason}"
    pure true
  else pure false

/-- Gives back what was read from a file too much. -/
def giveBackInput (length used : Nat) : Run Unit := do
  match ← Run.handle? 0 with
  | some (id, h) =>
    match h.channel with
    | .file _ => Run.setHandle id { h with offset := h.offset - (length - used) }
    | _ => pure ()
  | none => pure ()

/-- Whether a stream leads to the file that output goes to. -/
def isOutput (node : Option Nat) : Run Bool := do
  match ← Run.handle? 1, node with
  | some (_, h), some n => pure (h.channel == .file n)
  | _, _ => pure false

/-- The node that a file, or the input, stands for. -/
def nodeOf (file : String) : Run (Option Nat) := do
  if file = "-" then do
    match ← Run.handle? 0 with
    | some (_, h) =>
      match h.channel with
      | .file n => pure (some n)
      | _ => pure none
    | none => pure none
  else do return (← Run.node true file).toOption.map Prod.fst

/-- The pieces of a text between characters that end them; an open one at the end counts too. -/
def piecesBetween (isEnd : Char → Bool) (cs : List Char) : List (List Char) :=
  let (done, current) := cs.foldl
    (fun (acc : List (List Char) × List Char) c =>
      if isEnd c then (acc.2.reverse :: acc.1, []) else (acc.1, c :: acc.2))
    ([], [])
  (if current.isEmpty then done else current.reverse :: done).reverse

/-- The lines of a text that a character ends, or line ends without it. -/
def linesUpTo (close : Char) (cs : List Char) : List (List Char) := piecesBetween (· == close) cs

/-- Lines, each with its end. -/
def closedBy (close : Char) (ls : List (List Char)) : List Char := ls.flatMap fun l => l ++ [close]

/-- What was read as a number with a unit: its value, whether it has left its range, and whether
something else follows. -/
structure Quantity where
  value : Int
  exceeds : Bool
  trails : Bool
  deriving DecidableEq, Repr

namespace Quantity

/-- The letters of units that each are a thousand times the one before. -/
def powers : List Char := "KMGTPEZYRQ".toList

/-- The factor of a unit at the front of a text, and how many characters it has. With a zero among
the known letters, a second letter tells whether the unit counts in thousands. -/
def unit? (letters cs : List Char) : Option (Nat × Nat) := do
  let c ← cs.head?
  if !letters.contains c then none
  else if c = 'b' then some (512, 1)
  else if c = 'B' then some (1024, 1)
  else if c = 'c' then some (1, 1)
  else if c = 'w' then some (2, 1)
  else
    let i ← powers.idxOf? c.toUpper
    let plain := some (1024 ^ (i + 1), 1)
    if !letters.contains '0' then plain
    else
      match cs.tail with
      | 'i' :: 'B' :: _ => some (1024 ^ (i + 1), 3)
      | 'B' :: _ => some (1000 ^ (i + 1), 2)
      | 'D' :: _ => some (1000 ^ (i + 1), 2)
      | _ => plain

/-- Reads a number with a unit behind it. A unit without a number counts once. -/
def read? (letters : String) (low high : Int) (s : String) : Option Quantity :=
  let (negative, body) := Binary64.takeSign (s.toList.dropWhile Arithmetic.isSpace)
  let ds := body.takeWhile Char.isDigit
  let behind := if ds.isEmpty then s.toList else body.drop ds.length
  let unit := unit? letters.toList behind
  if (negative && 0 ≤ low) || (ds.isEmpty && unit.isNone) then none
  else
    let (factor, length) := unit.getD (1, 0)
    let size := (if ds.isEmpty then 1 else Decimal.value ds) * factor
    let value : Int := if negative then -size else size
    some ⟨max low (min high value), value < low || high < value, length < behind.length⟩

/-- The greatest natural number that a program holds, and the greatest integer. -/
def mostNatural : Int := 2 ^ 64 - 1
def mostInteger : Int := 2 ^ 63 - 1

end Quantity

/-- A number between two bounds, which is read within the limits of its kind, or a complaint. -/
def bounded (self complaint : String) (r : Option Quantity) (low high : Int) (s : String) :
    Run Int := do
  let refuse (reason : String) : Run Int := do
    complain self s!"{complaint}: {← named s}{reason}"
    quit 1
  match r with
  | none => refuse ""
  | some q =>
    if q.trails then refuse ""
    else if q.exceeds then refuse ": Value too large for defined data type"
    else if low ≤ q.value && q.value ≤ high then pure q.value
    else if q.value.natAbs < 2 ^ 30 then refuse ": Numerical result out of range"
    else refuse ": Value too large for defined data type"

/-- The natural number that an option gives. -/
def natural (self complaint letters : String) (low : Nat) (s : String) : Run Nat := do
  let most := Quantity.mostNatural
  return (← bounded self complaint (Quantity.read? letters 0 most s) low most s).toNat

/-- The integer that an option gives. -/
def integer (self complaint letters : String) (low high : Int) (s : String) : Run Int :=
  let most := Quantity.mostInteger
  bounded self complaint (Quantity.read? letters (-most - 1) most s) low high s

end CredoAssistant.Shell.Program
