import CredoAssistant.Shell.Regex.Basic

/-!
The notations of the standard for regular expressions, and those of programs that differ from them
in particulars: which signs need a backslash, and what may stand where.
-/
namespace CredoAssistant.Shell.Regex

/-- A notation. -/
structure Dialect where
  /-- Parentheses group without a backslash. -/
  plainGroups : Bool
  /-- Braces bound repetitions without a backslash. -/
  plainBraces : Bool
  /-- A bar separates branches without a backslash. -/
  plainBars : Bool
  /-- The plus sign and the question mark repeat without a backslash. -/
  plainSigns : Bool
  /-- Braces bound repetitions at all. -/
  intervals : Bool
  /-- The signs for the edges of lines are signs everywhere. -/
  freeEdges : Bool
  /-- A repetition of nothing is passed over. -/
  skipsRepetitions : Bool
  /-- A repetition of nothing is a fault. -/
  faultsRepetitions : Bool
  /-- A repetition cannot be repeated by an asterisk or by braces. -/
  repeatsOnce : Bool
  /-- Braces without bounds between them stand for themselves. -/
  looseBraces : Bool
  /-- A closing parenthesis without an opening one stands for itself. -/
  looseGroups : Bool
  /-- A line end separates branches. -/
  lineBranches : Bool
  /-- Sets can name classes. -/
  classes : Bool
  /-- The ends of a range must be in order. -/
  orderedRanges : Bool
  /-- A backslash in a set stands for the character behind it. -/
  escapesInSets : Bool
  /-- A period stands for line ends too. -/
  lineEnds : Bool
  deriving Repr

namespace Dialect

/-- The basic notation of the standard. -/
def basic : Dialect where
  plainGroups := false
  plainBraces := false
  plainBars := false
  plainSigns := false
  intervals := true
  freeEdges := false
  skipsRepetitions := false
  faultsRepetitions := false
  repeatsOnce := true
  looseBraces := false
  looseGroups := false
  lineBranches := false
  classes := true
  orderedRanges := true
  escapesInSets := false
  lineEnds := true

/-- The extended notation of the standard. -/
def extended : Dialect :=
  { basic with
    plainGroups := true, plainBraces := true, plainBars := true, plainSigns := true
    freeEdges := true, skipsRepetitions := true, faultsRepetitions := true, repeatsOnce := false }

/-- The basic notation of a program that searches lines. -/
def searching : Dialect := { basic with repeatsOnce := false, lineBranches := true }

/-- The extended notation of such a program. -/
def searchingExtended : Dialect :=
  { extended with
    faultsRepetitions := false, looseBraces := true, looseGroups := true, lineBranches := true }

/-- The notation of expressions in which one text is compared with another. -/
def comparing : Dialect := { basic with repeatsOnce := false, orderedRanges := false }

/-- The notation of a text editor that has neither bounds nor classes. -/
def editing : Dialect :=
  { basic with
    plainSigns := true, intervals := false, repeatsOnce := false, classes := false
    orderedRanges := false, lineEnds := false }

end Dialect

/-- Why a text is no expression. -/
inductive Flaw
  | pattern
  | collation
  | className
  | escape
  | reference
  | bracket
  | group
  | brace
  | bounds
  | range
  | size
  | repetition
  | groupEnd
  deriving DecidableEq, Repr

def Flaw.reason : Flaw → String
  | pattern => "Invalid regular expression"
  | collation => "Invalid collation character"
  | className => "Invalid character class name"
  | escape => "Trailing backslash"
  | reference => "Invalid back reference"
  | bracket => "Unmatched [, [^, [:, [., or [="
  | group => "Unmatched ( or \\("
  | brace => "Unmatched \\\x7b"
  | bounds => "Invalid content of \\\x7b\\\x7d"
  | range => "Invalid range end"
  | size => "Regular expression too big"
  | repetition => "Invalid preceding regular expression"
  | groupEnd => "Unmatched ) or \\)"

/-- How a text is read: in which notation, regardless of case or not, and whether it is wide. With
`apart` line ends are kept apart: neither a period nor an inverted set stands for one. -/
structure Reading where
  dialect : Dialect
  folds : Bool
  wide : Bool
  apart : Bool
  text : Array Char

/-- A sign of an expression. -/
inductive Sign
  | char (c : Char)
  | edge (e : Edge)
  | back (number : Nat)
  | star
  | plus
  | optional
  | bracket
  | bar
  | groupStart
  | groupEnd
  | braceStart
  | braceEnd
  | period
  | kind (inverted : Bool) (members : List Member)
  | backslash
  | done
  deriving DecidableEq, Repr

/-- The character that a sign is written with. -/
def Sign.char? : Sign → Option Char
  | char c => some c
  | star => some '*'
  | plus => some '+'
  | optional => some '?'
  | groupEnd => some ')'
  | braceStart => some '\x7b'
  | braceEnd => some '\x7d'
  | _ => none

/-- The largest bound of a repetition. -/
def boundLimit : Nat := 32767

namespace Reading

def folded (k : Reading) (c : Char) : Char :=
  if !k.folds then c else if k.wide then Letters.toUpper c else c.toUpper

/-- The sign that a character behind a backslash stands for. -/
def escaped (d : Dialect) (c : Char) : Sign :=
  let word : List Member := [.named "alnum", .range '_' '_']
  if c = '|' ∧ !d.plainBars then .bar
  else if c.isDigit ∧ c ≠ '0' then .back (c.toNat - '0'.toNat)
  else if c = '<' then .edge .wordStart
  else if c = '>' then .edge .wordEnd
  else if c = 'b' then .edge .word
  else if c = 'B' then .edge .noWord
  else if c = 'w' then .kind false word
  else if c = 'W' then .kind true word
  else if c = 's' then .kind false [.named "space"]
  else if c = 'S' then .kind true [.named "space"]
  else if c = '\x60' then .edge .textStart
  else if c = '\'' then .edge .textEnd
  else if c = '(' ∧ !d.plainGroups then .groupStart
  else if c = ')' ∧ !d.plainGroups then .groupEnd
  else if c = '+' ∧ !d.plainSigns then .plus
  else if c = '?' ∧ !d.plainSigns then .optional
  else if c = '\x7b' ∧ d.intervals ∧ !d.plainBraces then .braceStart
  else if c = '\x7d' ∧ d.intervals ∧ !d.plainBraces then .braceEnd
  else .char c

/-- Whether a branch or a group can end at an index. -/
def closesAt (k : Reading) (i : Nat) : Bool :=
  let d := k.dialect
  match k.text[i]? with
  | none => true
  | some '\\' =>
    match k.text[i + 1]? with
    | some '|' => !d.plainBars
    | some ')' => !d.plainGroups
    | _ => false
  | some c =>
    (c == '|' && d.plainBars) || (c == ')' && d.plainGroups) || (c == '\n' && d.lineBranches)

/-- The sign at an index, and its length. `opens` says that a line can start here. -/
def signAt (k : Reading) (opens : Bool) (i : Nat) : Sign × Nat :=
  let d := k.dialect
  match k.text[i]? with
  | none => (.done, 0)
  | some '\\' =>
    match k.text[i + 1]? with
    | none => (.backslash, 1)
    | some c => (escaped d c, 2)
  | some c =>
    let sign : Sign :=
      if c = '\n' ∧ d.lineBranches then .bar
      else if c = '|' ∧ d.plainBars then .bar
      else if c = '*' then .star
      else if c = '+' ∧ d.plainSigns then .plus
      else if c = '?' ∧ d.plainSigns then .optional
      else if c = '\x7b' ∧ d.intervals ∧ d.plainBraces then .braceStart
      else if c = '\x7d' ∧ d.intervals ∧ d.plainBraces then .braceEnd
      else if c = '(' ∧ d.plainGroups then .groupStart
      else if c = ')' ∧ d.plainGroups then .groupEnd
      else if c = '[' then .bracket
      else if c = '.' then .period
      else if c = '^' then
        let isFree := d.freeEdges || opens || i == 0
          || (d.lineBranches && k.text[i - 1]? == some '\n')
        if isFree then .edge .lineStart else .char c
      else if c = '$' then
        if d.freeEdges || k.closesAt (i + 1) then .edge .lineEnd else .char c
      else .char c
    (sign, 1)

/-! Sets -/

/-- An element of a set. -/
inductive Element
  | char (c : Char)
  | wide (c : Char)
  | symbol (name : List Char)
  | alike (name : List Char)
  | named (name : String)

/-- Whether three hyphens stand at an index, which count as one. -/
def threeHyphensAt (k : Reading) (i : Nat) : Bool :=
  k.text[i]? == some '-' && k.text[i + 1]? == some '-' && k.text[i + 2]? == some '-'

/-- Whether a single hyphen stands at an index. -/
def hyphenAt (k : Reading) (i : Nat) : Bool := k.text[i]? == some '-' && !k.threeHyphensAt i

/-- The name of an element in brackets of its own, from an index on, and the index behind it. -/
def nameAt (k : Reading) (mark : Char) (i : Nat) : Except Flaw (List Char × Nat) :=
  let isEnd (n : Nat) : Bool := k.text[i + n]? == some mark && k.text[i + n + 1]? == some ']'
  match (List.range 32).find? isEnd with
  | some n => .ok ((k.text.extract i (i + n)).toList, i + n + 2)
  | none => .error .bracket

/-- The element of a set at an index, and the index behind it. A hyphen is one only at either end of
the set, or when it is `welcome`. -/
def elementAt (k : Reading) (welcome : Bool) (i : Nat) : Except Flaw (Element × Nat) :=
  match k.text[i]?, k.text[i + 1]? with
  | none, _ => .error .bracket
  | some '[', some '.' => (k.nameAt '.' (i + 2)).map fun (name, j) => (.symbol name, j)
  | some '[', some '=' => (k.nameAt '=' (i + 2)).map fun (name, j) => (.alike name, j)
  | some c, next =>
    if c = '[' ∧ next = some ':' ∧ k.dialect.classes then
      (k.nameAt ':' (i + 2)).map fun (name, j) => (.named (String.ofList name), j)
    else if k.threeHyphensAt i then .ok (.char '-', i + 3)
    else if c = '-' ∧ !welcome ∧ next ≠ some ']' then .error .range
    else if c = '\\' ∧ k.dialect.escapesInSets ∧ next.isSome then
      .ok (.char (next.getD c), i + 2)
    else if k.wide ∧ 128 ≤ c.toNat ∧ c.toNat < Octets.firstApart then .ok (.wide c, i + 1)
    else .ok (.char c, i + 1)

/-- The character that an element stands for as an end of a range. -/
def endOf : Element → Except Flaw Char
  | .char c => .ok c
  | .wide _ => .error .collation
  | .symbol [c] => if c.toNat < 128 then .ok c else .error .collation
  | .symbol _ => .error .collation
  | .alike _ => .error .range
  | .named _ => .error .range

/-- The members that stand for an element by itself. -/
def memberOf (k : Reading) (e : Element) : Except Flaw Member :=
  let one (c : Char) : Member := .range (k.folded c) (k.folded c)
  match e with
  | .char c => .ok (one c)
  | .wide c => .ok (one c)
  | .symbol [c] => if k.wide ∧ 128 ≤ c.toNat then .error .collation else .ok (one c)
  | .alike [c] => if k.wide ∧ 128 ≤ c.toNat then .error .collation else .ok (one c)
  | .symbol _ => .error .collation
  | .alike _ => .error .collation
  | .named name =>
    let name := if k.folds ∧ (name = "upper" ∨ name = "lower") then "alpha" else name
    if Member.classNames.contains name then .ok (.named name) else .error .className

/-- Whether an element can start a range. -/
def startsRange : Element → Bool
  | .alike _ => false
  | .named _ => false
  | _ => true

/-- The members of a set from an index on, and the index behind its bracket. -/
def membersAt (k : Reading) :
    Nat → Bool → Nat → List Member → Except Flaw (List Member × Nat)
  | 0, _, _, _ => .error .bracket
  | fuel + 1, first, i, acc => do
    let (e, j) ← k.elementAt first i
    let isRange := startsRange e && k.hyphenAt j && k.text[j + 1]? != some ']'
    if startsRange e ∧ k.text.size ≤ (if k.hyphenAt j then j + 1 else j) then .error .bracket
    let (acc, j) ←
      if isRange then do
        let (e', j) ← k.elementAt true (j + 1)
        if !startsRange e' then .error .range
        let low := k.folded (← endOf e)
        let high := k.folded (← endOf e')
        let high := if high.toNat < Octets.firstApart then high else '\x7f'
        if k.dialect.orderedRanges ∧ high < low then .error .range
        .ok (.range low high :: acc, j)
      else do .ok ((← k.memberOf e) :: acc, j)
    match k.text[j]? with
    | none => .error .bracket
    | some ']' => .ok (acc.reverse, j + 1)
    | some _ => membersAt k fuel false j acc

/-- The set behind a bracket, and the index behind it. -/
def setAt (k : Reading) (i : Nat) : Except Flaw (Regex × Nat) := do
  let inverted := k.text[i]? == some '^'
  let i := if inverted then i + 1 else i
  if k.text.size ≤ i then .error .pattern
  let (ms, j) ← k.membersAt (k.text.size + 1) true i []
  let ms := if inverted ∧ k.apart then .range '\n' '\n' :: ms else ms
  .ok (.set k.folds inverted ms, j)

/-! Expressions -/

/-- How far a text has been read: the index, the sign there and the index behind it, the number of
the next group, the groups that are complete, whether nothing but edges stands before the sign in
its branch, and the repetitions of nothing that were passed over. -/
structure State where
  sign : Sign
  next : Nat
  group : Nat
  closed : List Nat
  fresh : Bool
  passed : List String

/-- Goes on to the next sign. -/
def advance (k : Reading) (opens : Bool) (s : State) : State :=
  let (sign, length) := k.signAt opens s.next
  { s with sign, next := s.next + length }

/-- A number between braces: none, or a text that is no number, or the number. -/
inductive Bound
  | none
  | broken
  | number (n : Nat)
  deriving DecidableEq

/-- Reads a number up to the sign that ends it. -/
def bound (k : Reading) : Nat → Bound → State → Bound × State
  | 0, b, s => (b, s)
  | fuel + 1, b, s =>
    let s := k.advance false s
    let c := s.sign.char?
    if s.sign = .done then (.broken, s)
    else if s.sign = .braceEnd ∨ c = some ',' then (b, s)
    else
      let b : Bound :=
        match s.sign, b with
        | .char c, .none => if c.isDigit then .number (c.toNat - 48) else .broken
        | .char c, .number n =>
          if c.isDigit then .number (min (boundLimit + 1) (n * 10 + (c.toNat - 48))) else .broken
        | _, _ => .broken
      bound k fuel b s

/-- The bounds of a repetition between braces; nothing if the brace stands for itself. -/
def bounds (k : Reading) (s : State) : Except Flaw (Option (Nat × Option Nat) × State) := do
  let fuel := k.text.size + 2
  let isComma (s : State) : Bool := s.sign = .char ','
  let literal : Except Flaw (Option (Nat × Option Nat) × State) :=
    .ok (none, { s with sign := .char '\x7b' })
  let broken (t : State) : Except Flaw (Option (Nat × Option Nat) × State) :=
    if k.dialect.looseBraces then literal
    else .error (if t.sign = .done then .brace else .bounds)
  let finish (low : Nat) (high : Option Nat) (t : State) :
      Except Flaw (Option (Nat × Option Nat) × State) := do
    if high.any (· < low) ∨ t.sign ≠ .braceEnd then .error .bounds
    if boundLimit < high.getD low then .error .size
    .ok (some (low, high), k.advance false t)
  let upper (low : Nat) (t : State) : Except Flaw (Option (Nat × Option Nat) × State) :=
    if t.sign = .braceEnd then finish low (some low) t
    else if isComma t then
      match k.bound fuel .none t with
      | (.none, t) => finish low none t
      | (.number high, t) => finish low (some high) t
      | (.broken, t) => broken t
    else broken t
  match k.bound fuel .none s with
  | (.none, t) => if isComma t then upper 0 t else .error .bounds
  | (.number low, t) => upper low t
  | (.broken, t) => broken t

/-- Reads the repetitions behind a part. -/
def repetitions (k : Reading) : Nat → Option Regex → State → Except Flaw (Option Regex × State)
  | 0, r, s => .ok (r, s)
  | fuel + 1, r, s => do
    let found : Option (Nat × Option Nat) × State ←
      match s.sign with
      | .star => .ok (some (0, none), k.advance false s)
      | .plus => .ok (some (1, none), k.advance false s)
      | .optional => .ok (some (0, some 1), k.advance false s)
      | .braceStart => k.bounds s
      | _ => .ok (none, s)
    match found with
    | (none, s) => .ok (r, s)
    | (some (low, high), s) =>
      if k.dialect.repeatsOnce ∧ (s.sign = .star ∨ s.sign = .braceStart) then .error .repetition
      let r := if high = some 0 then none else r.map fun r => .repeated r low high false
      repetitions k fuel r s

/-- One expression behind another. -/
def joined (r r' : Option Regex) : Option Regex :=
  match r, r' with
  | some r, some r' => some (.concat r r')
  | some r, none => some r
  | none, r' => r'

/-- The signs of repetitions as complaints name them. -/
def signName : Sign → String
  | .star => "*"
  | .plus => "+"
  | .optional => "?"
  | _ => "\x7b...\x7d"

/-- Whether a branch ends in front of a sign. -/
def endsBranch (nested : Bool) (sign : Sign) : Bool :=
  sign = .bar || sign = .done || (nested && sign = .groupEnd)

mutual

/-- Reads the branches of a choice. -/
def choice (k : Reading) : Nat → Bool → State → Except Flaw (Option Regex × State)
  | 0, _, _ => .error .size
  | fuel + 1, nested, s => do
    let (r, s') ← branch k fuel nested none s
    branches k fuel nested s.closed r s'

/-- Reads the branches behind the first ones. Each can refer to the groups in front of the
choice. -/
def branches (k : Reading) :
    Nat → Bool → List Nat → Option Regex → State → Except Flaw (Option Regex × State)
  | 0, _, _, _, _ => .error .size
  | fuel + 1, nested, before, r, s => do
    if s.sign = .bar then
      let s := { k.advance true s with fresh := true }
      let (r', s) ←
        if endsBranch nested s.sign then .ok (none, s)
        else do
          let (r', t) ← branch k fuel nested none { s with closed := before }
          .ok (r', { t with closed := s.closed ++ t.closed })
      branches k fuel nested before (some (.either (r.getD .empty) (r'.getD .empty))) s
    else .ok (r, s)

/-- Reads the parts of a branch. -/
def branch (k : Reading) :
    Nat → Bool → Option Regex → State → Except Flaw (Option Regex × State)
  | 0, _, _, _ => .error .size
  | fuel + 1, nested, r, s => do
    if endsBranch nested s.sign then .ok (r, s)
    else do
      let (r', s) ← part k fuel nested s
      branch k fuel nested (joined r r') s

/-- Reads one part with the repetitions behind it. -/
def part (k : Reading) : Nat → Bool → State → Except Flaw (Option Regex × State)
  | 0, _, _ => .error .size
  | fuel + 1, nested, s => do
    let d := k.dialect
    let literal (c : Char) : Except Flaw (Option Regex × State) :=
      repetitions k (k.text.size + 2) (some (.char k.folds c))
        { k.advance false s with fresh := false }
    let simple (r : Regex) : Except Flaw (Option Regex × State) :=
      repetitions k (k.text.size + 2) (some r) { k.advance false s with fresh := false }
    let repetition : Except Flaw (Option Regex × State) :=
      if d.faultsRepetitions ∧ !d.repeatsOnce then .error .repetition
      else if d.skipsRepetitions then
        let passed := if s.fresh then s.passed ++ [signName s.sign] else s.passed
        match s.sign with
        | .braceStart => do
          let (found, t) ← k.bounds s
          let t := if found.isSome then { t with passed, fresh := false } else t
          part k fuel nested t
        | _ => part k fuel nested (k.advance false { s with passed })
      else literal ((s.sign.char?).getD '*')
    match s.sign with
    | .char c => literal c
    | .edge e =>
      let t := k.advance true s
      if d.skipsRepetitions ∧ !d.faultsRepetitions then
        let isNext := t.sign = .star || t.sign = .plus || t.sign = .optional
        let passed := if isNext && t.fresh then t.passed ++ [signName t.sign] else t.passed
        repetitions k (k.text.size + 2) (some (.edge e)) { t with passed }
      else .ok (some (.edge e), t)
    | .back n =>
      if s.closed.contains n then simple (.same k.folds n) else .error .reference
    | .star => repetition
    | .plus => repetition
    | .optional => repetition
    | .braceStart => if d.repeatsOnce then .error .repetition else repetition
    | .braceEnd => literal '\x7d'
    | .bracket => do
      let (r, i) ← k.setAt s.next
      repetitions k (k.text.size + 2) (some r)
        { k.advance false { s with next := i } with fresh := false }
    | .period => simple (.any (d.lineEnds && !k.apart))
    | .kind inverted ms => simple (.set k.folds inverted ms)
    | .groupStart => do
      let number := s.group
      let s := { k.advance true { s with group := s.group + 1 } with fresh := true }
      let (r, s) ← if s.sign = .groupEnd then .ok (none, s) else choice k fuel true s
      if s.sign ≠ .groupEnd then .error .group
      let s := { k.advance false s with fresh := false, closed := number :: s.closed }
      repetitions k (k.text.size + 2) (some (.group number (r.getD .empty))) s
    | .groupEnd => if d.looseGroups then literal ')' else .error .groupEnd
    | .backslash => .error .escape
    | .bar => .ok (none, s)
    | .done => .ok (none, s)

end

/-- Reads the expression of a text, and tells which repetitions of nothing were passed over. -/
def expression (k : Reading) : Except Flaw (Regex × Nat × List String) := do
  let s := k.advance true ⟨.done, 0, 1, [], true, []⟩
  let (r, s) ← choice k (5 * k.text.size + 10) false s
  if s.sign ≠ .done then .error .groupEnd
  .ok (r.getD .empty, s.group - 1, s.passed)

end Reading

/-- The set behind a bracket: the characters between its own, whether there are elements with names
or ranges among them, and what follows. -/
def setText : Nat → Bool → List Char → List Char → List Char × Bool × List Char
  | 0, named, acc, rest => (acc.reverse, named, rest)
  | fuel + 1, named, acc, cs =>
    match cs with
    | [] => (acc.reverse, named, [])
    | '[' :: mark :: rest =>
      if ".:=".toList.contains mark then
        let name := rest.takeWhile (· != mark)
        setText fuel true acc (rest.drop (name.length + 2))
      else setText fuel named ('[' :: acc) (mark :: rest)
    | ']' :: rest =>
      if acc.isEmpty then setText fuel named [']'] rest else (acc.reverse, named, rest)
    | '-' :: c :: rest =>
      if c = ']' then ('-' :: acc |>.reverse, named, rest)
      else setText fuel true ('-' :: acc) (c :: rest)
    | c :: rest => setText fuel named (c :: acc) rest

/-- Whether a set in a text looks like the name of a class, which needs brackets of its own. -/
def hasBareClassIn : Nat → List Char → Bool
  | 0, _ => false
  | _, [] => false
  | fuel + 1, '\\' :: rest => hasBareClassIn fuel (rest.drop 1)
  | fuel + 1, '[' :: rest =>
    let (body, named, left) :=
      setText fuel false [] (if rest.head? == some '^' then rest.drop 1 else rest)
    let isBare :=
      !named && body.head? == some ':' && body.getLast? == some ':' && body.any (· != ':')
    isBare || hasBareClassIn fuel left
  | fuel + 1, _ :: rest => hasBareClassIn fuel rest

/-- Whether a text names a class without a set around it. -/
def hasBareClass (cs : List Char) : Bool := hasBareClassIn (cs.length + 1) cs

def bareClassReason : String := "character class syntax is [[:space:]], not [:space:]"

/-- Reads an expression; with it comes the number of its groups. -/
def read (d : Dialect) (folds wide : Bool) (cs : List Char) : Except Flaw (Regex × Nat) :=
  (Reading.expression ⟨d, folds, wide, false, cs.toArray⟩).map fun (r, groups, _) => (r, groups)

end CredoAssistant.Shell.Regex
