import CredoAssistant.Shell.Program.Common
import CredoAssistant.Shell.Regex.Notation

/-!
Scripts that edit lines: which instructions they hold, and how they are read.
-/
namespace CredoAssistant.Shell.Program.Edit

/-- An expression that lines are compared with. With `multiline` each line of a text has edges of
its own. -/
structure Pattern where
  regex : Regex
  multiline : Bool
  deriving Repr, Inhabited

/-- Which lines are meant. -/
inductive Address
  | line (n : Nat)
  | last
  /-- Lines that an expression fits; without one, the last that was used. -/
  | fits (p : Option Pattern)
  | step (first each : Nat)
  /-- So many lines behind the first of a range. -/
  | plus (n : Nat)
  /-- The next line whose number is a multiple. -/
  | multiple (n : Nat)
  deriving Repr, Inhabited

/-- How the letters of a replacement are changed. -/
inductive Case
  | same
  | upper
  | lower
  deriving DecidableEq, Repr, Inhabited

/-- A piece of a replacement: a text and a group behind it, the case of both, and that of the first
letter if it has one of its own. -/
structure Piece where
  text : List Char
  group : Option Nat
  case : Case
  initial : Option Case
  deriving Repr, Inhabited

/-- A substitution: from which fit on, for all of them or one, and where a changed line is shown. -/
structure Substitution where
  pattern : Option Pattern
  pieces : List Piece
  start : Nat
  all : Bool
  shows : Bool
  file : Option String
  deriving Repr, Inhabited

inductive Action
  | block (behind : Nat)
  | close
  | label (name : String)
  | branch (name : String)
  | branchIf (changed : Bool) (name : String)
  | delete
  | deleteFirst
  | print
  | printFirst
  | next
  | append
  | hold
  | holdAppend
  | fetch
  | fetchAppend
  | exchange
  | empty
  | quit (shows : Bool) (status : Nat)
  | substitute (s : Substitution)
  | translate (table : List (Char × Char))
  | behind (text : List Char)
  | before (text : List Char)
  | change (text : List Char)
  | number
  | fileName
  | list (width : Option Nat)
  | readFile (name : String)
  | readLine (name : String)
  | writeFile (name : String)
  | writeFirst (name : String)
  deriving Repr, Inhabited

/-- What is done for which lines. -/
structure Instruction where
  first : Option Address
  last : Option Address
  negated : Bool
  action : Action
  deriving Repr, Inhabited

/-! Escapes -/

/-- The number at the front of a text, of so many digits of a base at the most. -/
def numberIn (base most : Nat) (cs : List Char) : Option Nat × List Char :=
  let value? (c : Char) : Option Nat :=
    let n :=
      if c.isDigit then c.toNat - 48
      else if 'a' ≤ c ∧ c ≤ 'f' then c.toNat - 87
      else if 'A' ≤ c ∧ c ≤ 'F' then c.toNat - 55
      else base
    if n < base then some n else none
  let ds := (cs.take most).takeWhile fun c => (value? c).isSome
  let n := ds.foldl (fun n c => n * base + (value? c).getD 0) 0
  (if ds.isEmpty then none else some n, cs.drop ds.length)

/-- What a text with escapes is for: an expression, a replacement, or another text. -/
inductive Purpose
  | expression
  | replacement
  | text
  deriving DecidableEq, Repr

/-- The character with a number: a byte of its own beyond ASCII where texts are `wide`. -/
def byteChar (wide : Bool) (n : Nat) : Char :=
  let n := n % 256
  if wide ∧ 128 ≤ n then Char.ofNat (Octets.firstApart + n) else Char.ofNat n

/-- Puts characters in the place of the escapes that stand for them. Others are left as they are,
and so is what would have a meaning of its own. -/
def unescaped (wide : Bool) (p : Purpose) : Nat → List Char → List Char
  | 0, cs => cs
  | _, [] => []
  | fuel + 1, '\\' :: c :: rest =>
    let go := unescaped wide p fuel
    let named : List (Char × Char) :=
      [('a', '\x07'), ('f', '\x0c'), ('n', '\n'), ('r', '\r'), ('t', '\t'), ('v', '\x0b')]
    let coded (base most : Nat) : List Char :=
      match numberIn base most rest with
      | (none, _) => c :: go rest
      | (some n, rest) =>
        let d := byteChar wide n
        let isSign := d = '\\' ∧ p ≠ .text ∨ d = '&' ∧ p = .replacement
        (if isSign then ['\\', d] else [d]) ++ go rest
    match named.find? fun e => e.1 == c with
    | some e => e.2 :: go rest
    | none =>
      if c = 'd' then coded 10 3
      else if c = 'o' then coded 8 3
      else if c = 'x' then coded 16 2
      else if c = 'c' then
        match rest with
        | d :: rest => Char.ofNat (d.toUpper.toNat ^^^ 64) :: go rest
        | [] => ['\\', 'c']
      else '\\' :: c :: go rest
  | fuel + 1, c :: rest => c :: unescaped wide p fuel rest

/-- Takes away the backslashes before characters. -/
def bare : List Char → List Char
  | '\\' :: c :: rest => c :: bare rest
  | c :: rest => c :: bare rest
  | [] => []

/-- The pieces of a replacement. `case` is that of the text to come, `kept` the one behind it. -/
def piecesOf : Case → Option Case → Case → List Char → List Char → List Piece
  | case, initial, _, acc, [] =>
    if acc.isEmpty then [] else [⟨acc.reverse, none, case, initial⟩]
  | case, initial, kept, acc, '\\' :: c :: rest =>
    let piece (group : Option Nat) : Piece := ⟨acc.reverse, group, case, initial⟩
    if c.isDigit then piece (some (c.toNat - 48)) :: piecesOf kept none kept [] rest
    else if c = 'L' then piece none :: piecesOf .lower none .lower [] rest
    else if c = 'U' then piece none :: piecesOf .upper none .upper [] rest
    else if c = 'E' then piece none :: piecesOf .same none .same [] rest
    else if c = 'l' then piece none :: piecesOf kept (some .lower) kept [] rest
    else if c = 'u' then piece none :: piecesOf kept (some .upper) kept [] rest
    else piecesOf case initial kept (c :: acc) rest
  | case, initial, kept, acc, '&' :: rest =>
    ⟨acc.reverse, some 0, case, initial⟩ :: piecesOf kept none kept [] rest
  | case, initial, kept, acc, c :: rest => piecesOf case initial kept (c :: acc) rest

/-! Reading -/

/-- A part of a script: one that was given by itself, with its number, or the contents of a file. -/
inductive Origin
  | given (number : Nat)
  | file (name : String)
  deriving Repr

/-- What is left of a part of a script, how many bytes of it are behind and on which line that is,
whether expressions are extended and texts wide, whether files can be used, and what was read so
far: the instructions, the blocks that are open with where they begin, whether the last instruction
still waits for its text, and whether lines are not shown by themselves. With `unplaced` a fault has
no place of its own. -/
structure Source where
  rest : List Char
  used : Nat
  line : Nat
  origin : Origin
  wide : Bool
  extended : Bool
  isClosed : Bool
  isFirst : Bool
  done : Array Instruction
  opened : List (Nat × Origin × Nat)
  waiting : Bool
  silent : Bool
  unplaced : Bool

/-- Reads a script; a failure is what is wrong with it. -/
abbrev Reader := ExceptT String (StateM Source)

/-- How many bytes a character stands for. -/
def widthOf (wide : Bool) (c : Char) : Nat := if wide then (Octets.ofCharacters [c]).length else 1

/-- The next character, if there is one. -/
def next? : Reader (Option Char) := do
  let s ← get
  match s.rest with
  | [] => pure none
  | c :: rest => do
    let line := if c = '\n' then s.line + 1 else s.line
    set { s with rest, used := s.used + widthOf s.wide c, line }
    pure (some c)

/-- Gives a character back. -/
def back (c? : Option Char) : Reader Unit :=
  match c? with
  | none => pure ()
  | some c => modify fun s =>
    { s with
      rest := c :: s.rest, used := s.used - widthOf s.wide c
      line := if c = '\n' then s.line - 1 else s.line }

/-- Goes past all characters of a kind, which are no line ends. -/
def skipWhile (holds : Char → Bool) : Reader (List Char) := do
  let s ← get
  let cs := s.rest.takeWhile fun c => c != '\n' && holds c
  set { s with
    rest := s.rest.drop cs.length, used := s.used + (cs.map (widthOf s.wide)).sum }
  pure cs

def isBlank (c : Char) : Bool := c == ' ' || c == '\t'

/-- The next character behind blanks. -/
def nextSolid? : Reader (Option Char) := do
  let _ ← skipWhile isBlank
  next?

/-- The digits from a character on, as a number. -/
def integer (c? : Option Char) : Reader Nat := do
  back c?
  let ds ← skipWhile Char.isDigit
  pure (Nat.ofDigitChars 10 ds 0)

/-- Where a text between delimiters is: outside of sets, in front of the first member of one, which
a caret may precede, inside of one, or in the name of a class. -/
inductive Depth
  | outside
  | opening (caret : Bool)
  | inside
  | named (mark : Char)
  deriving DecidableEq

/-- Splits off a text up to a delimiter. In an expression none counts inside of a set. Nothing is
found if the line ends first; what is left then comes with it. -/
def delimited (expression : Bool) (d : Char) :
    Depth → List Char → List Char → Option (List Char) × List Char
  | _, _, [] => (none, [])
  | depth, acc, '\\' :: c :: rest =>
    if expression ∧ depth ≠ .outside then
      if c = 'n' then delimited expression d .inside ('\n' :: acc) rest
      else if c = '\n' then (none, c :: rest)
      else if c = ']' then
        match depth with
        | .opening _ => delimited expression d .inside (c :: '\\' :: acc) rest
        | _ => delimited expression d .outside (c :: '\\' :: acc) rest
      else delimited expression d .inside (c :: '\\' :: acc) rest
    else if c = 'n' ∧ expression then delimited expression d depth ('\n' :: acc) rest
    else if c = '\n' ∨ c = d ∧ (expression ∨ c ≠ '&') then
      delimited expression d depth (c :: acc) rest
    else delimited expression d depth (c :: '\\' :: acc) rest
  | depth, acc, c :: rest =>
    if c = '\n' then (none, c :: rest)
    else
      match depth with
      | .outside =>
        if c = d then (some acc.reverse, rest)
        else if c = '[' ∧ expression then delimited expression d (.opening true) (c :: acc) rest
        else if c = '\\' then (none, rest)
        else delimited expression d .outside (c :: acc) rest
      | .opening caret =>
        if c = '^' ∧ caret then delimited expression d (.opening false) (c :: acc) rest
        else if c = '[' then
          match rest with
          | mark :: _ =>
            let depth := if ".:=".toList.contains mark then .named mark else .inside
            delimited expression d depth (c :: acc) rest
          | [] => (none, [])
        else delimited expression d .inside (c :: acc) rest
      | .inside =>
        if c = ']' then delimited expression d .outside (c :: acc) rest
        else if c = '[' then
          match rest with
          | mark :: _ =>
            let depth := if ".:=".toList.contains mark then .named mark else .inside
            delimited expression d depth (c :: acc) rest
          | [] => (none, [])
        else delimited expression d .inside (c :: acc) rest
      | .named mark =>
        if c = ']' ∧ acc.head? = some mark then delimited expression d .inside (c :: acc) rest
        else delimited expression d (.named mark) (c :: acc) rest

/-- Reads a text up to a delimiter. -/
def delimitedText? (expression : Bool) (d? : Option Char) : Reader (Option (List Char)) := do
  match d? with
  | none => pure none
  | some d => do
    let s ← get
    if s.wide ∧ 128 ≤ d.toNat ∧ d.toNat < Octets.firstApart then do
      set { s with used := s.used - widthOf s.wide d + 1 }
      throw "delimiter character is not a single-byte character"
    let (text, left) := delimited expression d .outside [] s.rest
    let _ ← (s.rest.take (s.rest.length - left.length)).mapM fun _ => next?
    if d = '\n' then pure none else pure text

/-- Reads an expression; an empty one stands for the last that was used. With it comes the number of
its groups. -/
def patternOf (folds multiline : Bool) (cs : List Char) : Reader (Option Pattern × Nat) := do
  let s ← get
  if cs.isEmpty then do
    if folds || multiline then throw "cannot specify modifiers on empty regexp"
    pure (none, 0)
  else
    let text := unescaped s.wide .expression (cs.length + 1) cs
    let d : Regex.Dialect := if s.extended then .extended else .basic
    match Regex.Reading.expression ⟨d, folds, s.wide, multiline, text.toArray⟩ with
    | .ok (r, groups, _) => pure (some ⟨r, multiline⟩, groups)
    | .error flaw => throw flaw.reason

/-- Checks that an expression names no class without a set around it. -/
def checkClasses (cs : List Char) : Reader Unit := do
  if Regex.hasBareClass cs then do
    modify fun s => { s with unplaced := true }
    throw Regex.bareClassReason

/-- The letters behind the expression of an address. -/
def addressFlags : Nat → Bool → Bool → Reader (Bool × Bool)
  | 0, folds, multiline => pure (folds, multiline)
  | fuel + 1, folds, multiline => do
    match ← nextSolid? with
    | some 'I' => addressFlags fuel true multiline
    | some 'M' => addressFlags fuel folds true
    | c? => do
      back c?
      pure (folds, multiline)

/-- Reads an address that starts with a character, if one does. -/
def address (c? : Option Char) : Reader (Option Address) := do
  match c? with
  | none => pure none
  | some c =>
    if c = '/' ∨ c = '\\' then do
      let d? ← if c = '\\' then next? else pure (some c)
      match ← delimitedText? true d? with
      | none => throw "unterminated address regex"
      | some text => do
        let (folds, multiline) ← addressFlags ((← get).rest.length + 1) false false
        let (p, _) ← patternOf folds multiline text
        checkClasses text
        pure (some (.fits p))
    else if c.isDigit then do
      let n ← integer c?
      match ← nextSolid? with
      | some '~' => do
        let each ← integer (← nextSolid?)
        pure (some (if each = 0 then .line n else .step n each))
      | c? => do
        back c?
        pure (some (.line n))
    else if c = '+' then do
      let n ← integer (← nextSolid?)
      pure (some (.plus n))
    else if c = '~' then do
      let n ← integer (← nextSolid?)
      pure (some (.multiple n))
    else if c = '$' then pure (some .last)
    else pure none

/-- Checks that nothing stands behind an instruction on its line but a comment. -/
def endOfInstruction : Reader Unit := do
  match ← nextSolid? with
  | none => pure ()
  | some c =>
    if c = '\x7d' ∨ c = '#' then back (some c)
    else if c = '\n' ∨ c = ';' then pure ()
    else throw "extra characters after command"

/-- Reads the name of a label. -/
def labelName : Reader String := do
  let _ ← skipWhile isBlank
  let name ← skipWhile fun c => !c.isWhitespace && c != ';' && c != '\x7d'
  pure (String.ofList name)

/-- Reads the name of a file: the rest of the line. -/
def pathName : Reader String := do
  if (← get).isClosed then throw "e/r/w commands disabled in sandbox mode"
  let _ ← skipWhile isBlank
  let name ← skipWhile fun _ => true
  let _ ← next?
  if name.isEmpty then throw "missing filename in r/R/w/W commands"
  let wide := (← get).wide
  pure (String.ofList (bytesIn wide name))

/-- The rest of a text to insert, up to the end of a line that no backslash joins to the next. -/
def textLines (acc : List Char) : List Char → List Char × List Char
  | [] => (('\n' :: acc).reverse, [])
  | ['\\'] => (('\n' :: acc).reverse, [])
  | '\\' :: c :: rest => textLines (c :: '\\' :: acc) rest
  | '\n' :: rest => (('\n' :: acc).reverse, rest)
  | c :: rest => textLines (c :: acc) rest

/-- Reads a text to insert that starts with some characters. -/
def insertedText (lead : List Char) : Reader (List Char) := do
  let s ← get
  let (raw, left) := textLines lead s.rest
  let _ ← (s.rest.take (s.rest.length - left.length)).mapM fun _ => next?
  pure (bare (unescaped s.wide .text (raw.length + 1) raw))

/-- Reads the text of an instruction; nothing if the next part of the script holds it. -/
def textOf : Reader (Option (List Char)) := do
  match ← nextSolid? with
  | none => throw "expected \\ after \x60a', \x60c' or \x60i'"
  | some '\\' => do
    match ← next? with
    | none => pure none
    | some '\n' => do
      let text ← insertedText []
      pure (some text)
    | some c => do
      let text ← insertedText [c]
      pure (some text)
  | c? => do
    back c?
    let text ← insertedText []
    pure (some text)

/-- Reads the flags of a substitution: with it, whether case counts not and whether lines have edges
of their own. -/
def flags : Nat → Substitution → Bool → Bool → Bool → Reader (Substitution × Bool × Bool)
  | 0, s, _, folds, multiline => pure (s, folds, multiline)
  | fuel + 1, s, counted, folds, multiline => do
    match ← next? with
    | none => pure (s, folds, multiline)
    | some c =>
      if c = 'i' ∨ c = 'I' then flags fuel s counted true multiline
      else if c = 'm' ∨ c = 'M' then flags fuel s counted folds true
      else if c = 'e' ∨ isBlank c then flags fuel s counted folds multiline
      else if c = 'p' then do
        if s.shows then throw "multiple \x60p' options to \x60s' command"
        flags fuel { s with shows := true } counted folds multiline
      else if c = 'g' then do
        if s.all then throw "multiple \x60g' options to \x60s' command"
        flags fuel { s with all := true } counted folds multiline
      else if c = 'w' then do
        let name ← pathName
        pure ({ s with file := some name }, folds, multiline)
      else if c.isDigit then do
        if counted then throw "multiple number options to \x60s' command"
        let n ← integer (some c)
        if n = 0 then throw "number option to \x60s' command may not be zero"
        flags fuel { s with start := n } true folds multiline
      else if c = '\x7d' ∨ c = '#' then do
        back (some c)
        pure (s, folds, multiline)
      else if c = '\n' ∨ c = ';' then pure (s, folds, multiline)
      else throw "unknown option to \x60s'"

/-- Reads a substitution behind its letter. -/
def substitution : Reader Action := do
  let d? ← next?
  match ← delimitedText? true d? with
  | none => throw "unterminated \x60s' command"
  | some pattern => do
    match ← delimitedText? false d? with
    | none => throw "unterminated \x60s' command"
    | some replacement => do
      let wide := (← get).wide
      let text := unescaped wide .replacement (replacement.length + 1) replacement
      let pieces := piecesOf .same none .same [] text
      let left := (← get).rest.length + 1
      let (s, folds, multiline) ← flags left ⟨none, pieces, 1, false, false, none⟩ false false false
      let (p, groups) ← patternOf folds multiline pattern
      let most := pieces.foldl (fun n piece => max n (piece.group.getD 0)) 0
      if p.isSome ∧ groups < most then
        throw s!"invalid reference \\{most} on \x60s' command's RHS"
      checkClasses pattern
      pure (.substitute { s with pattern := p })

/-- Reads a table of characters behind its letter. -/
def translation : Reader Action := do
  let d? ← next?
  match ← delimitedText? false d? with
  | none => throw "unterminated \x60y' command"
  | some froms => do
    match ← delimitedText? false d? with
    | none => throw "unterminated \x60y' command"
    | some tos => do
      let wide := (← get).wide
      let plain (cs : List Char) : List Char :=
        bare (unescaped wide .expression (cs.length + 1) cs)
      if (plain froms).length ≠ (plain tos).length then
        throw "strings for \x60y' command are different lengths"
      endOfInstruction
      pure (.translate ((plain froms).zip (plain tos)))

/-- Actions that are a letter and nothing else. -/
def plainActions : List (Char × Action) :=
  [('=', .number), ('d', .delete), ('D', .deleteFirst), ('F', .fileName), ('g', .fetch),
    ('G', .fetchAppend), ('h', .hold), ('H', .holdAppend), ('n', .next), ('N', .append),
    ('p', .print), ('P', .printFirst), ('z', .empty), ('x', .exchange)]

/-- A number behind a letter, if one is there, at the end of an instruction. -/
def lastNumber : Reader (Option Nat) := do
  let c? ← nextSolid?
  if c?.any Char.isDigit then do
    let n ← integer c?
    endOfInstruction
    pure (some n)
  else do
    back c?
    endOfInstruction
    pure none

/-- Reads an action that starts with a letter; nothing if the letter stands for none. `first` and
`last` are its addresses. -/
def action (first last : Option Address) (c : Char) : Reader (Option Action) := do
  let inserted (f : List Char → Action) : Reader (Option Action) := do
    match ← textOf with
    | some text => pure (some (f text))
    | none => do
      modify fun s => { s with waiting := true }
      pure (some (f []))
  let single : Reader Unit := do
    if last.isSome then throw "command only uses one address"
  match plainActions.find? fun a => a.1 == c with
  | some a => do
    endOfInstruction
    pure (some a.2)
  | none =>
    match c with
    | '\x7b' => do
      modify fun s => { s with opened := (s.done.size, s.origin, s.line) :: s.opened }
      pure (some (.block 0))
    | '\x7d' => do
      match (← get).opened with
      | [] => throw "unexpected \x60\x7d'"
      | (i, _) :: opened => do
        if first.isSome then throw "\x60\x7d' doesn't want any addresses"
        endOfInstruction
        modify fun s =>
          { s with
            opened, done := s.done.modify i fun x => { x with action := .block s.done.size } }
        pure (some .close)
    | ':' => do
      if first.isSome then throw ": doesn't want any addresses"
      let name ← labelName
      if name = "" then throw "\":\" lacks a label"
      pure (some (.label name))
    | 'b' => do
      let name ← labelName
      pure (some (.branch name))
    | 't' => do
      let name ← labelName
      pure (some (.branchIf true name))
    | 'T' => do
      let name ← labelName
      pure (some (.branchIf false name))
    | 'q' => do
      single
      let n ← lastNumber
      pure (some (.quit true (n.getD 0)))
    | 'Q' => do
      single
      let n ← lastNumber
      pure (some (.quit false (n.getD 0)))
    | 'l' => do
      let n ← lastNumber
      pure (some (.list n))
    | 'a' => inserted .behind
    | 'i' => inserted .before
    | 'c' => inserted .change
    | 'r' => do
      let name ← pathName
      pure (some (.readFile name))
    | 'R' => do
      let name ← pathName
      pure (some (.readLine name))
    | 'w' => do
      let name ← pathName
      pure (some (.writeFile name))
    | 'W' => do
      let name ← pathName
      pure (some (.writeFirst name))
    | 's' => do
      let a ← substitution
      pure (some a)
    | 'y' => do
      let a ← translation
      pure (some a)
    | _ => pure none

/-- Whether an instruction may stand in front of the first line: it reads a file, or its range ends
where an expression fits. -/
def startsAtZero (first last : Option Address) (c? : Option Char) : Bool :=
  match first, last with
  | some (.line 0), some (.fits _) => true
  | some (.line 0), none => c? == some 'r'
  | some (.line 0), some _ => false
  | _, _ => true

/-- Reads the comment behind its sign. At the very front of a script a letter in it turns off that
lines are shown by themselves. -/
def comment (first : Option Address) : Reader Unit := do
  if first.isSome then throw "comments don't accept any addresses"
  let s ← get
  if s.isFirst ∧ s.used = 1 ∧ s.rest.head? = some 'n' then
    modify fun s => { s with silent := true }
  let _ ← skipWhile fun _ => true

/-- Reads the instructions of one part of a script. -/
def instructions : Nat → Reader Unit
  | 0 => pure ()
  | fuel + 1 => do
    match ← next? with
    | none => pure ()
    | some c =>
      if c = ';' ∨ c.isWhitespace then instructions fuel
      else do
        let isRelative : Address → Bool
          | .plus _ => true
          | .multiple _ => true
          | _ => false
        let first ← address (some c)
        if first.any isRelative then throw "invalid usage of +N or ~N as first address"
        let c? ← if first.isSome then nextSolid? else pure (some c)
        let (last, c?) ←
          if first.isSome ∧ c? = some ',' then do
            match ← address (← nextSolid?) with
            | none => throw "unexpected \x60,'"
            | some a => do
              let c? ← nextSolid?
              pure (some a, c?)
          else pure (none, c?)
        if !startsAtZero first last c? then throw "invalid usage of line address 0"
        let (negated, c?) ←
          if c? = some '!' then do
            let c? ← nextSolid?
            if c? = some '!' then throw "multiple \x60!'s"
            pure (true, c?)
          else pure (false, c?)
        match c? with
        | none => throw "missing command"
        | some '#' => do
          comment first
          instructions fuel
        | some 'v' => do
          let version ← labelName
          if version.startsWith "5" || version.startsWith "9" then
            throw "expected newer version of sed"
          instructions fuel
        | some c => do
          match ← action first last c with
          | some a => do
            modify fun s => { s with done := s.done.push ⟨first, last, negated, a⟩ }
            instructions fuel
          | none => throw s!"unknown command: \x60{c}'"

/-- Gives the last instruction the text it waits for. -/
def completed (text : List Char) (x : Instruction) : Instruction :=
  match x.action with
  | .behind _ => { x with action := .behind text }
  | .before _ => { x with action := .before text }
  | .change _ => { x with action := .change text }
  | _ => x

/-- Reads one part of a script. -/
def part : Reader Unit := do
  if (← get).waiting then do
    let text ← insertedText []
    modify fun s =>
      { s with waiting := false, done := s.done.modify (s.done.size - 1) (completed text) }
  instructions ((← get).rest.length + 1)

/-- Where in a script something is wrong. -/
def place (o : Origin) (line used : Nat) : String :=
  match o with
  | .given n => s!"-e expression #{n}, char {used}"
  | .file name => s!"file {name} line {line}"

end CredoAssistant.Shell.Program.Edit
