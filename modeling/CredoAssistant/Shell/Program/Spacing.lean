import CredoAssistant.Shell.Program.Common

/-!
The space that lines take: lines broken at a width, and tabs turned into blanks and back.
-/
namespace CredoAssistant.Shell.Program

/-! Lines broken at a width -/

namespace Folding

/-- Where lines are broken: behind how many columns or bytes, and whether behind blanks only. -/
structure Plan where
  width : Nat
  bytes : Bool
  atBlanks : Bool

/-- The column behind a character. -/
def column (p : Plan) (n : Nat) (c : Char) : Nat :=
  if p.bytes then n + 1
  else if c = '\x08' then n - 1
  else if c = '\r' then 0
  else if c = '\t' then n + 8 - n % 8
  else n + 1

def isBlank (c : Char) : Bool := c == ' ' || c == '\t'

/-- Adds a character to a line that is held back, the last character first. What is shown then comes
with the line that goes on. -/
def add (p : Plan) (c : Char) : Nat → List Char → List Char × List Char
  | 0, held => ([], c :: held)
  | fuel + 1, held =>
    let reached := held.reverse.foldl (column p) 0
    if column p reached c ≤ p.width then ([], c :: held)
    else
      let behind := held.takeWhile fun d => !isBlank d
      if p.atBlanks && behind.length < held.length then
        let (shown, held') := add p c fuel behind
        ((held.drop behind.length).reverse ++ '\n' :: shown, held')
      else if held.isEmpty then ([], [c])
      else
        let (shown, held') := add p c fuel []
        (held.reverse ++ '\n' :: shown, held')

/-- Breaks a line, with its end if it has one. -/
def broken (p : Plan) (line : List Char) : List Char :=
  let (shown, held) := line.foldl
    (fun (acc : List (List Char) × List Char) c =>
      let (shown, held) := add p c (acc.2.length + 2) acc.2
      (if shown.isEmpty then acc.1 else shown :: acc.1, held))
    ([], [])
  shown.reverse.flatten ++ held.reverse

end Folding

/-- Arguments in which digits behind a hyphen are the value of an option. A value that stands by
itself is left alone. -/
def withBareDigits (option : Char) (word : String) : List String → List String
  | [] => []
  | "--" :: rest => "--" :: rest
  | a :: rest =>
    match a.toList with
    | '-' :: '-' :: name =>
      if 2 ≤ name.length && name.isPrefixOf word.toList then
        a :: rest.take 1 ++ withBareDigits option word (rest.drop 1)
      else a :: withBareDigits option word rest
    | '-' :: d :: more =>
      if d.isDigit then
        String.ofList ('-' :: option :: d :: more) :: withBareDigits option word rest
      else if (d :: more).getLast? = some option then
        a :: rest.take 1 ++ withBareDigits option word (rest.drop 1)
      else a :: withBareDigits option word rest
    | _ => a :: withBareDigits option word rest
termination_by args => args.length
decreasing_by all_goals simp only [List.length_cons, List.length_drop]; omega

def fold : Body := fun self args => do
  let a ← arguments self (.ofText "bsw:" [("bytes", 'b'), ("spaces", 's'), ("width", 'w')]) 1
    (withBareDigits 'w' "width" args)
  let widths ← (a.options.filter fun o => o.1 == 'w').mapM fun o =>
    natural self "invalid number of columns" "" 1 o.2
  let p : Folding.Plan := ⟨widths.getLastD 80, a.has 'b', a.has 's'⟩
  let failed ← anyFails (inputs a) fun file => do
    match ← contents file with
    | .ok cs => do
      let (lines, closed) := linesOf cs
      let shown := unlines (lines.map (Folding.broken p))
      put self (if closed then shown else shown.dropLast)
      pure false
    | .error fault => do
      cannotRead self file fault
      pure true
  let unclosed ← closeInput self (inputs a)
  pure (statusOf (failed || unclosed))

/-! Tabs -/

namespace Tabs

/-- Where tabs lead: to columns that are listed, and behind these to the multiples of a size, which
count from the beginning of the line or, with `fromLast`, from the last column listed. -/
structure Stops where
  columns : List Nat
  size : Option Nat
  fromLast : Bool

/-- The column that a tab leads to from a column, if there is one. -/
def next? (s : Stops) (column : Nat) : Option Nat :=
  let multiple (size start : Nat) : Nat := column + (size - (column - start) % size)
  match s.columns, s.size with
  | [], none => some (multiple 8 0)
  | [], some size => some (multiple size 0)
  | [size], none => some (multiple size 0)
  | columns, size? =>
    match columns.find? (column < ·), size? with
    | some n, _ => some n
    | none, some size => some (multiple size (if s.fromLast then columns.getLastD 0 else 0))
    | none, none => none

/-- How far a list of columns was read: the columns and their last size with its sign, the digits at
hand and the sign before them, and whether something was wrong. -/
structure Reading where
  columns : List Nat
  extend : Option Nat
  increment : Option Nat
  digits : List Char
  sign : Option Char
  wrong : Bool

/-- Takes up the number at hand. -/
def close (self : String) (r : Reading) : Run Reading := do
  if r.digits.isEmpty then pure r
  else
    let n := Decimal.value r.digits
    let r := { r with digits := [] }
    match r.sign with
    | none => pure { r with columns := r.columns ++ [n] }
    | some '/' => do
      if (r.extend.getD 0) != 0 then do
        complain self "'/' specifier only allowed with the last value"
        pure { r with wrong := true }
      else pure { r with extend := some n }
    | some _ => do
      if (r.increment.getD 0) != 0 then do
        complain self "'+' specifier only allowed with the last value"
        pure { r with wrong := true }
      else pure { r with increment := some n }

/-- Reads a list of columns. -/
def read (self : String) : List Char → Reading → Run Reading
  | [], r => if r.wrong then pure r else close self r
  | c :: rest, r => do
    if c = ',' ∨ c = ' ' ∨ c = '\t' then do
      let r' ← close self r
      if r'.wrong && !r.wrong then pure r' else read self rest r'
    else if c = '/' ∨ c = '+' then do
      if !r.digits.isEmpty then do
        let name ← named (String.ofList (c :: rest))
        complain self s!"'{c}' specifier not at start of number: {name}"
      read self rest { r with sign := some c, wrong := r.wrong || !r.digits.isEmpty }
    else if c.isDigit then do
      let digits := r.digits ++ [c]
      if 2 ^ 64 ≤ Decimal.value digits then
        if Decimal.value r.digits < 2 ^ 64 then do
          let all := String.ofList (digits ++ rest.takeWhile Char.isDigit)
          complain self s!"tab stop is too large {← named all}"
        read self rest { r with digits, wrong := true }
      else read self rest { r with digits }
    else do
      let name ← named (String.ofList (c :: rest))
      complain self s!"tab size contains invalid character(s): {name}"
      pure { r with wrong := true }

/-- Checks what was read. -/
def stopsOf (self : String) (r : Reading) : Run Stops := do
  let refuse (message : String) : Run Unit := do
    complain self message
    quit 1
  if r.wrong then quit 1
  let pairs := (0 :: r.columns).zip r.columns
  match pairs.find? fun p => p.2 ≤ p.1 with
  | some (_, n) =>
    refuse (if n = 0 then "tab size cannot be 0" else "tab sizes must be ascending")
  | none => pure ()
  let extend := r.extend.filter (· != 0)
  let increment := r.increment.filter (· != 0)
  if extend.isSome && increment.isSome then
    refuse "'/' specifier is mutually exclusive with '+'"
  pure ⟨r.columns, extend.orElse fun _ => increment, extend.isNone⟩

def isBlank (c : Char) : Bool := c == ' ' || c == '\t'

/-- Turns tabs of a line into blanks, with `whole` behind other characters too. -/
def expanded (s : Stops) (whole : Bool) : Bool → Nat → List Char → List Char
  | _, _, [] => []
  | converts, column, c :: rest =>
    if !converts then c :: expanded s whole false column rest
    else if c = '\t' then
      let next := (next? s column).getD (column + 1)
      List.replicate (next - column) ' ' ++ expanded s whole true next rest
    else
      let column := if c = '\x08' then column - 1 else column + 1
      c :: expanded s whole (whole || isBlank c) column rest

/-- How far a line was turned into tabs: whether that goes on, the column, the blanks that are held
back, the last one first, whether the first of them stands alone before a tab stop, and whether a
blank came last. -/
structure Position where
  converts : Bool
  column : Nat
  pending : List Char
  oneBefore : Bool
  lastBlank : Bool

/-- Shows the blanks that are held back. -/
def flushed (p : Position) : List Char :=
  match p.pending.reverse with
  | _ :: b :: more => if p.oneBefore then '\t' :: b :: more else p.pending.reverse
  | cs => cs

/-- Turns blanks of a line into tabs, with `whole` behind other characters too. -/
def unexpanded (s : Stops) (whole : Bool) : Position → List Char → List Char
  | p, [] => flushed p
  | p, c :: rest =>
    let plain (p : Position) (c : Char) : List Char :=
      flushed p ++ c :: unexpanded s whole
        { p with
          pending := [], oneBefore := false, lastBlank := isBlank c
          converts := p.converts && (whole || isBlank c) } rest
    if !p.converts then c :: unexpanded s whole p rest
    else if isBlank c then
      match next? s p.column with
      | none => plain { p with converts := false } c
      | some next =>
        let tabbed (column : Nat) : List Char :=
          let first := match p.pending.reverse with
            | [] => []
            | _ :: _ => ['\t']
          let pending := if p.oneBefore then first else []
          plain { p with column, pending } '\t'
        if c = '\t' then tabbed next
        else if p.lastBlank && p.column + 1 = next then tabbed next
        else
          unexpanded s whole
            { p with
              column := p.column + 1, pending := c :: p.pending, lastBlank := true
              oneBefore := p.oneBefore || p.column + 1 = next } rest
    else plain { p with column := if c = '\x08' then p.column - 1 else p.column + 1 } c

/-- Shows the files of a program in one piece, with each line converted. An open line at the end of
a file goes on in the next one. -/
def display (self : String) (files : List String) (convert : List Char → List Char) : Run Nat := do
  let (held, failed) ← files.foldlM
    (fun (held, failed) file => do
      match ← contents file with
      | .ok cs => do
        let (lines, closed) := linesOf (held ++ cs)
        put self (unlines ((if closed then lines else lines.dropLast).map convert))
        pure (if closed then [] else lines.getLastD [], failed)
      | .error fault => do
        cannotRead self file fault
        pure (held, true))
    (([] : List Char), false)
  put self (convert held)
  let unclosed ← closeInput self files
  pure (statusOf (failed || unclosed))

/-- The stops that some lists name. -/
def stopsFrom (self : String) (lists : List String) : Run Stops := do
  let r ← lists.foldlM
    (fun r list => do
      let r ← read self list.toList { r with sign := none }
      if r.wrong then quit 1
      pure r)
    (Reading.mk [] none none [] none false)
  stopsOf self r

end Tabs

def expand : Body := fun self args => do
  let a ← arguments self (.ofText "it:" [("initial", 'i'), ("tabs", 't')]) 1
    (withBareDigits 't' "tabs" args)
  let stops ← Tabs.stopsFrom self ((a.options.filter fun o => o.1 == 't').map Prod.snd)
  Tabs.display self (inputs a) (Tabs.expanded stops (!a.has 'i') true 0)

def unexpand : Body := fun self args => do
  let a ← arguments self
    (.ofText ",0123456789at:\x01" [("tabs", 't'), ("all", 'a'), ("first-only", '\x01')]) 1 args
  let bare := String.ofList ((a.options.map Prod.fst).filter fun c => c.isDigit || c == ',')
  let lists := (a.options.filter fun o => o.1 == 't').map Prod.snd
  let stops ← Tabs.stopsFrom self (lists ++ if bare = "" then [] else [bare])
  let whole := (a.has 'a' || a.has 't') && !a.has '\x01'
  Tabs.display self (inputs a) (Tabs.unexpanded stops whole ⟨true, 0, [], false, true⟩)

end CredoAssistant.Shell.Program
