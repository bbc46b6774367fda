import CredoAssistant.Shell.Regex.Basic

/-!
The notation of Perl for regular expressions: lazy and possessive repetitions, looks ahead and
behind, named groups, and switches within the expression. Its classes hold nothing beyond ASCII.
-/
namespace CredoAssistant.Shell.Regex

namespace Perl

/-- Switches: regardless of case, periods for line ends too, edges at every line, and blanks that
stand for nothing. -/
structure Switches where
  folds : Bool
  lineEnds : Bool
  lines : Bool
  spaced : Bool
  deriving Repr

/-- What is read: the rest of the text, the number of groups so far, their names, the groups that
were referred to, and the switches. -/
structure State where
  rest : List Char
  groups : Nat
  names : List (String × Nat)
  used : List Nat
  switches : Switches

abbrev Reader := ExceptT String (StateM State)

def peek : Reader (List Char) := do return (← get).rest

def skip (n : Nat) : Reader Unit := modify fun s => { s with rest := s.rest.drop n }

/-- Goes past a text if it comes next. -/
def take? (text : String) : Reader Bool := do
  let isNext := text.toList.isPrefixOf (← peek)
  if isNext then skip text.length
  pure isNext

/-- Goes past what comes before a character, and the character. -/
def upTo (c : Char) (missing : String) : Reader String := do
  let rest ← peek
  let text := rest.takeWhile (· != c)
  if text.length = rest.length then throw missing
  skip (text.length + 1)
  pure (String.ofList text)

/-! Classes -/

/-- A class: ranges in order. -/
abbrev Ranges := List (Char × Char)

/-- The last of all characters. -/
def lastChar : Char := Char.ofNat 0x10FFFF

/-- What lies between ranges, from a character on. -/
def gaps (start : Nat) : Ranges → Ranges
  | [] => [(Char.ofNat start, lastChar)]
  | (low, high) :: rest =>
    (if start < low.toNat then [(Char.ofNat start, Char.ofNat (low.toNat - 1))] else [])
      ++ gaps (high.toNat + 1) rest

/-- The members of a class, or of all outside of it. -/
def membersOf (outside : Bool) (rs : Ranges) : List Member :=
  (if outside then gaps 0 rs else rs).map fun r => .range r.1 r.2

def digits : Ranges := [('0', '9')]

def words : Ranges := [('0', '9'), ('A', 'Z'), ('_', '_'), ('a', 'z')]

def spaces : Ranges := [('\t', '\r'), (' ', ' ')]

/-- The class that a letter behind a backslash stands for. -/
def letterClass? (c : Char) : Option (List Member) :=
  if c = 'd' ∨ c = 'D' then some (membersOf (c == 'D') digits)
  else if c = 'w' ∨ c = 'W' then some (membersOf (c == 'W') words)
  else if c = 's' ∨ c = 'S' then some (membersOf (c == 'S') spaces)
  else if c = 'h' ∨ c = 'H' then some (membersOf (c == 'H') [('\t', '\t'), (' ', ' ')])
  else if c = 'v' ∨ c = 'V' then some (membersOf (c == 'V') [('\n', '\r')])
  else if c = 'N' then some (membersOf true [('\n', '\n')])
  else none

/-- The classes of the standard. -/
def namedClasses : List (String × Ranges) :=
  [("alpha", [('A', 'Z'), ('a', 'z')]), ("lower", [('a', 'z')]), ("upper", [('A', 'Z')]),
    ("alnum", [('0', '9'), ('A', 'Z'), ('a', 'z')]), ("ascii", [('\x00', '\x7f')]),
    ("blank", [('\t', '\t'), (' ', ' ')]), ("cntrl", [('\x00', '\x1f'), ('\x7f', '\x7f')]),
    ("digit", digits), ("graph", [('!', '~')]), ("print", [(' ', '~')]),
    ("punct", [('!', '/'), (':', '@'), ('[', '\x60'), ('\x7b', '~')]), ("space", spaces),
    ("word", words), ("xdigit", [('0', '9'), ('A', 'F'), ('a', 'f')])]

/-- The property of characters that a name stands for. -/
def property? (name : String) : Option (List Member) :=
  if ["L", "L&", "Alphabetic"].contains name then some [.named "alpha"]
  else if name = "Lu" then some [.named "upper"]
  else if name = "Ll" then some [.named "lower"]
  else if ["N", "Nd"].contains name then some [.named "digit"]
  else if name.startsWith "P" then some [.named "punct"]
  else if ["Z", "Zs", "Xsp", "Xps"].contains name then some [.named "space"]
  else if name = "Xan" then some [.named "alnum"]
  else if name = "Xwd" then some [.named "alnum", .range '_' '_']
  else if name = "Any" then some [.range '\x00' lastChar]
  else none

/-- The property behind its letter. -/
def property (outside : Bool) : Reader (List Member) := do
  let malformed := "malformed \\P or \\p sequence"
  let name ←
    if ← take? "\x7b" then upTo '\x7d' malformed
    else
      match ← peek with
      | c :: _ => do
        skip 1
        pure (String.singleton c)
      | [] => throw malformed
  let negated := name.startsWith "^"
  match property? (if negated then (name.drop 1).toString else name) with
  | none => throw "unknown property after \\P or \\p"
  | some ms =>
    if outside == negated then pure ms
    else
      match ms with
      | [m] => pure [.outside m]
      | _ => pure []

/-! Escapes -/

/-- A number of a base, of so many digits at the most. -/
def numeral (base most : Nat) : Reader Nat := do
  let isDigit (c : Char) : Bool :=
    if base = 8 then '0' ≤ c && c ≤ '7'
    else if base = 10 then c.isDigit
    else c.isDigit || ('a' ≤ c && c ≤ 'f') || ('A' ≤ c && c ≤ 'F')
  let ds := ((← peek).take most).takeWhile isDigit
  skip ds.length
  let valueOf (c : Char) : Nat := if c.isDigit then c.toNat - 48 else c.toUpper.toNat - 55
  pure (ds.foldl (fun n c => n * base + valueOf c) 0)

/-- The character that a letter behind a backslash stands for. -/
def escapedChar? (c : Char) : Reader (Option Char) := do
  match c with
  | 't' => pure (some '\t')
  | 'n' => pure (some '\n')
  | 'r' => pure (some '\r')
  | 'f' => pure (some '\x0c')
  | 'e' => pure (some '\x1b')
  | 'a' => pure (some '\x07')
  | '0' => do return some (Char.ofNat (← numeral 8 2))
  | 'o' => do
    if ← take? "\x7b" then do
      let n ← numeral 8 8
      let _ ← upTo '\x7d' "missing terminating \x7d or \x5d"
      pure (some (Char.ofNat n))
    else throw "missing opening brace after \\o"
  | 'x' => do
    if ← take? "\x7b" then do
      let n ← numeral 16 8
      let _ ← upTo '\x7d' "non-hex character in \\x\x7b\x7d (closing brace missing?)"
      pure (some (Char.ofNat n))
    else do return some (Char.ofNat (← numeral 16 2))
  | 'c' => do
    match ← peek with
    | d :: _ => do
      skip 1
      pure (some (Char.ofNat (d.toUpper.toNat ^^^ 64)))
    | [] => throw "\\c at end of pattern"
  | c => pure (if c.isAlphanum then none else some c)

/-! Sets -/

/-- The members that come next in a set, and the character they are, if it is only one. -/
def member : Reader (List Member × Option Char) := do
  match ← peek with
  | '\\' :: c :: _ => do
    skip 2
    if c = 'p' ∨ c = 'P' then do
      let ms ← property (c == 'P')
      pure (ms, none)
    else if c = 'b' then pure ([.range '\x08' '\x08'], some '\x08')
    else
      match letterClass? c with
      | some ms => pure (ms, none)
      | none => do
        match ← escapedChar? c with
        | some d => pure ([.range d d], some d)
        | none =>
          if c.isDigit then do
            modify fun s => { s with rest := c :: s.rest }
            let d := Char.ofNat (← numeral 8 3)
            pure ([.range d d], some d)
          else throw "unrecognized character follows \\"
  | '[' :: ':' :: rest => do
    let name := rest.takeWhile fun c => c.isAlpha || c == '^'
    match rest.drop name.length with
    | ':' :: ']' :: _ => do
      skip (name.length + 4)
      let outside := name.head? == some '^'
      let text := String.ofList (if outside then name.drop 1 else name)
      match namedClasses.find? fun n => n.1 == text with
      | some n => pure (membersOf outside n.2, none)
      | none => throw "unknown POSIX class name"
    | _ => do
      skip 1
      pure ([.range '[' '['], some '[')
  | c :: _ => do
    skip 1
    pure ([.range c c], some c)
  | [] => throw "missing terminating ] for character class"

/-- The members of a set up to its bracket. -/
def members : Nat → Bool → List Member → Reader (List Member)
  | 0, _, _ => throw "missing terminating ] for character class"
  | fuel + 1, first, acc => do
    match ← peek with
    | [] => throw "missing terminating ] for character class"
    | ']' :: _ =>
      if first then do
        skip 1
        members fuel false (.range ']' ']' :: acc)
      else do
        skip 1
        pure acc.reverse
    | '\\' :: 'Q' :: _ => do
      skip 2
      members fuel false acc
    | '\\' :: 'E' :: _ => do
      skip 2
      members fuel false acc
    | _ => do
      let (ms, low) ← member
      match low, ← peek with
      | some low, '-' :: c :: _ =>
        if c = ']' then members fuel false (ms ++ acc)
        else do
          skip 1
          match ← member with
          | (_, some high) => do
            if high < low then throw "range out of order in character class"
            members fuel false (.range low high :: acc)
          | (_, none) => throw "invalid range in character class"
      | _, _ => members fuel false (ms ++ acc)

/-! Repetitions -/

/-- The bounds of a repetition that come next. -/
def bounds? : Reader (Option (Nat × Option Nat)) := do
  match ← peek with
  | '*' :: _ => do
    skip 1
    pure (some (0, none))
  | '+' :: _ => do
    skip 1
    pure (some (1, none))
  | '?' :: _ => do
    skip 1
    pure (some (0, some 1))
  | '\x7b' :: rest => do
    let low := rest.takeWhile Char.isDigit
    let number (ds : List Char) : Nat := Nat.ofDigitChars 10 ds 0
    let check (low : Nat) (high : Option Nat) : Reader (Option (Nat × Option Nat)) := do
      if 65535 < high.getD low then throw "number too big in \x7b\x7d quantifier"
      if high.any (· < low) then throw "numbers out of order in \x7b\x7d quantifier"
      pure (some (low, high))
    if low.isEmpty then pure none
    else
      match rest.drop low.length with
      | '\x7d' :: _ => do
        skip (low.length + 2)
        check (number low) (some (number low))
      | ',' :: rest => do
        let high := rest.takeWhile Char.isDigit
        match rest.drop high.length with
        | '\x7d' :: _ => do
          skip (low.length + high.length + 3)
          check (number low) (if high.isEmpty then none else some (number high))
        | _ => pure none
      | _ => pure none
  | _ => pure none

/-- An expression with the repetitions behind it. -/
def repetition (r : Regex) : Reader Regex := do
  match ← bounds? with
  | none => pure r
  | some (low, high) => do
    if ← take? "?" then pure (.repeated r low high true)
    else if ← take? "+" then pure (.atomic (.repeated r low high false))
    else pure (.repeated r low high false)

/-- The number of characters an expression stands for, if that is always the same. -/
def width? : Regex → Option Nat
  | .empty => some 0
  | .char _ _ => some 1
  | .any _ => some 1
  | .set _ _ _ => some 1
  | .concat r r' => (width? r).bind fun n => (width? r').map (n + ·)
  | .either r r' => (width? r).bind fun n => if width? r' = some n then some n else none
  | .repeated r low high _ =>
    (width? r).bind fun n => if high = some low then some (n * low) else none
  | .group _ r => width? r
  | .same _ _ => none
  | .edge _ => some 0
  | .look _ _ _ => some 0
  | .atomic r => width? r
  | .keep => some 0

/-- Whether each branch of a look behind is of one width. -/
def isSteady : Regex → Bool
  | .either r r' => isSteady r && isSteady r'
  | r => (width? r).isSome

/-- A reference to a group. -/
def reference (n : Nat) : Reader Regex := do
  modify fun s => { s with used := n :: s.used }
  pure (.same (← get).switches.folds n)

def namedReference (name : String) : Reader Regex := do
  match (← get).names.find? fun n => n.1 == name with
  | some n => reference n.2
  | none => throw "reference to non-existent subpattern"

/-- What a backslash and a letter behind it stand for. -/
def escape (c : Char) : Reader Regex := do
  let sw := (← get).switches
  let edges : List (Char × Edge) :=
    [('A', .textStart), ('Z', .lastLineEnd), ('z', .textEnd), ('b', .word), ('B', .noWord),
      ('G', .textStart)]
  match edges.find? fun e => e.1 == c, letterClass? c with
  | some e, _ => pure (.edge e.2)
  | none, some ms => pure (.set false false ms)
  | none, none =>
    if c = 'K' then pure .keep
    else if c = 'R' then
      pure (.either (.concat (.char false '\r') (.char false '\n'))
        (.set false false [.range '\n' '\r']))
    else if c = 'p' ∨ c = 'P' then do return .set false false (← property (c == 'P'))
    else if c = 'k' then do
      if ← take? "\x7b" then namedReference (← upTo '\x7d' "syntax error in subpattern name")
      else if ← take? "<" then namedReference (← upTo '>' "syntax error in subpattern name")
      else if ← take? "'" then namedReference (← upTo '\'' "syntax error in subpattern name")
      else throw "\\k is not followed by a braced, angle-bracketed, or quoted name"
    else if c = 'g' then do
      let braced ← take? "\x7b"
      let back ← take? "-"
      let n ← numeral 10 9
      if braced then
        let _ ← upTo '\x7d' "a numbered reference must not be zero"
      let last := (← get).groups
      reference (if back then last + 1 - n else n)
    else if c.isDigit ∧ c ≠ '0' then do
      modify fun s => { s with rest := c :: s.rest }
      reference (← numeral 10 9)
    else do
      match ← escapedChar? c with
      | some d => pure (.char sw.folds d)
      | none => throw "unrecognized character follows \\"

/-- Reads switches: those to turn on, and behind a hyphen those to turn off. -/
def switch : Nat → Bool → Reader Bool
  | 0, _ => throw "missing closing parenthesis"
  | fuel + 1, on => do
    let set (f : Switches → Switches) : Reader Bool := do
      skip 1
      modify fun s => { s with switches := f s.switches }
      switch fuel on
    match ← peek with
    | ')' :: _ => do
      skip 1
      pure false
    | ':' :: _ => do
      skip 1
      pure true
    | '-' :: _ => do
      skip 1
      switch fuel false
    | 'i' :: _ => set fun s => { s with folds := on }
    | 's' :: _ => set fun s => { s with lineEnds := on }
    | 'm' :: _ => set fun s => { s with lines := on }
    | 'x' :: _ => set fun s => { s with spaced := on }
    | [] => throw "missing closing parenthesis"
    | _ => throw "unrecognized character after (? or (?-"

/-- The name of a group up to a character. -/
def groupName (close : Char) : Reader String := do
  let name := (← peek).takeWhile fun c => c.isAlphanum || c == '_'
  if (name.head?).any Char.isDigit then throw "subpattern name must start with a non-digit"
  if (← peek).drop name.length |>.head? |>.any (· == close) then do
    skip (name.length + 1)
    pure (String.ofList name)
  else throw "syntax error in subpattern name (missing terminator?)"

mutual

/-- Reads the branches up to the end of a group. -/
def choice : Nat → Reader Regex
  | 0 => throw "regular expression is too large"
  | fuel + 1 => do
    let r ← branch fuel .empty
    if ← take? "|" then do
      let r' ← choice fuel
      pure (.either r r')
    else pure r

/-- Reads the parts of a branch. -/
def branch : Nat → Regex → Reader Regex
  | 0, _ => throw "regular expression is too large"
  | fuel + 1, r => do
    let sw := (← get).switches
    let add (r' : Regex) : Reader Regex := do
      let r' ← repetition r'
      branch fuel (.concat r r')
    match ← peek with
    | [] => pure r
    | '|' :: _ => pure r
    | ')' :: _ => pure r
    | '(' :: _ => do
      skip 1
      match ← parenthesis fuel with
      | some r' => add r'
      | none => branch fuel r
    | '[' :: _ => do
      skip 1
      let inverted ← take? "^"
      let ms ← members ((← peek).length + 1) true []
      add (.set sw.folds inverted ms)
    | '.' :: _ => do
      skip 1
      add (.any sw.lineEnds)
    | '^' :: _ => do
      skip 1
      add (.edge (if sw.lines then .lineStart else .textStart))
    | '$' :: _ => do
      skip 1
      add (.edge (if sw.lines then .lineEnd else .lastLineEnd))
    | '\\' :: 'Q' :: _ => do
      skip 2
      quoted fuel r
    | '\\' :: 'E' :: _ => do
      skip 2
      branch fuel r
    | '\\' :: c :: _ => do
      skip 2
      add (← escape c)
    | ['\\'] => throw "\\ at end of pattern"
    | c :: rest => do
      if ['*', '+', '?'].contains c then throw "quantifier does not follow a repeatable item"
      if c = '\x7b' then do
        match ← bounds? with
        | some _ => throw "quantifier does not follow a repeatable item"
        | none => pure ()
      if sw.spaced ∧ c.isWhitespace then do
        skip 1
        branch fuel r
      else if sw.spaced ∧ c = '#' then do
        skip (rest.takeWhile (· != '\n')).length
        skip 1
        branch fuel r
      else do
        skip 1
        add (.char sw.folds c)

/-- Reads characters that stand for themselves. -/
def quoted : Nat → Regex → Reader Regex
  | 0, _ => throw "regular expression is too large"
  | fuel + 1, r => do
    let folds := (← get).switches.folds
    match ← peek with
    | '\\' :: 'E' :: _ => do
      skip 2
      branch fuel r
    | [] => pure r
    | c :: _ => do
      skip 1
      quoted fuel (.concat r (.char folds c))

/-- Reads what stands in parentheses, which may be nothing but switches. -/
def parenthesis : Nat → Reader (Option Regex)
  | 0 => throw "regular expression is too large"
  | fuel + 1 => do
    let outer := (← get).switches
    let inside (f : Regex → Regex) : Reader (Option Regex) := do
      let r ← choice fuel
      if ← take? ")" then do
        modify fun s => { s with switches := outer }
        pure (some (f r))
      else throw "missing closing parenthesis"
    let capture (name : Option String) : Reader (Option Regex) := do
      let n := (← get).groups + 1
      let names := (name.map fun name => (name, n)).toList
      modify fun s => { s with groups := n, names := names ++ s.names }
      inside (.group n)
    let behind (negated : Bool) : Reader (Option Regex) := do
      match ← inside id with
      | some r =>
        if isSteady r then pure (some (.look true negated r))
        else throw "lookbehind assertion is not fixed length"
      | none => pure none
    if ← take? "?#" then do
      let _ ← upTo ')' "missing ) after (?# comment"
      pure none
    else if ← take? "?:" then inside id
    else if ← take? "?|" then inside id
    else if ← take? "?>" then inside .atomic
    else if ← take? "?=" then inside (.look false false)
    else if ← take? "?!" then inside (.look false true)
    else if ← take? "?<=" then behind false
    else if ← take? "?<!" then behind true
    else if ← take? "?P<" then do capture (some (← groupName '>'))
    else if ← take? "?<" then do capture (some (← groupName '>'))
    else if ← take? "?'" then do capture (some (← groupName '\''))
    else if ← take? "?P=" then do return some (← namedReference (← groupName ')'))
    else if ← take? "?" then do
      if ← switch (← peek).length true then inside id else pure none
    else capture none

end

/-- Reads all of an expression. -/
def all : Reader Regex := do
  let r ← choice (3 * (← peek).length + 10)
  if !(← peek).isEmpty then throw "unmatched closing parenthesis"
  let s ← get
  if s.used.any fun n => n = 0 || s.groups < n then throw "reference to non-existent subpattern"
  pure r

end Perl

/-- Reads an expression in the notation of Perl; what is wrong if it is none. -/
def readPerl (folds : Bool) (cs : List Char) : Except String Regex :=
  (Perl.all.run ⟨cs, 0, [], [], ⟨folds, false, false, false⟩⟩).1

end CredoAssistant.Shell.Regex
