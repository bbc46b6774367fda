import CredoAssistant.Shell.Program.Common

/-!
Two ordered files side by side: their lines in three columns, or joined where a field of both
agrees.
-/
namespace CredoAssistant.Shell.Program

/-- How the order of the lines is checked: as soon as a line has no counterpart, always, or
never. -/
inductive OrderCheck
  | lazy
  | strict
  | never
  deriving DecidableEq, Repr

/-- What comes of merging, in the order in which it comes: text, a warning, or the end. -/
inductive MergeEvent
  | text (cs : List Char)
  | warning (message : String)
  | refusal (message : String)

namespace MergeEvent

/-- Writes what comes of merging. -/
def tell (self : String) : MergeEvent → Run Unit
  | text cs => put self cs
  | warning message => complain self message
  | refusal message => do
    complain self message
    quit 1

end MergeEvent

def orderCheckOf (a : Arguments) (strict never : Char) : OrderCheck :=
  match lastOf a [strict, never] with
  | none => .lazy
  | some c => if c = strict then .strict else .never

/-! Columns of common and other lines -/

namespace Comparison

/-- One of two files: the line at hand with those behind it, and the two lines before it. -/
structure Side where
  lines : List (List Char)
  before : List (List Char)
  warned : Bool

/-- What was found so far, the newest first; whether a line had no counterpart; and how many lines
were in the first file alone, in the second alone and in both. -/
structure State where
  left : Side
  right : Side
  events : List MergeEvent
  apart : Bool
  totals : Nat × Nat × Nat

/-- Complains about two lines of a file that are not in order. -/
def checked (check : OrderCheck) (number : Nat) (s : State) (side : Side) (a b : List Char) :
    Side × List MergeEvent :=
  let applies := check == .strict || (check == .lazy && s.apart)
  if applies && !side.warned && decide (b < a) then
    let message := s!"file {number} is not in sorted order"
    ({ side with warned := true },
      [if check == .strict then .refusal message else .warning message])
  else (side, [])

/-- Goes on to the next line of a file. -/
def advance (check : OrderCheck) (number : Nat) (s : State) (side : Side) :
    Side × List MergeEvent :=
  match side.lines with
  | a :: b :: rest => checked check number s { side with lines := b :: rest, before := [a] } a b
  | [a] =>
    match side.before with
    | p :: _ => checked check number s { side with lines := [], before := [a] } p a
    | [] => ({ side with lines := [], before := [a] }, [])
  | [] => (side, [])

/-- Compares the lines at hand of both files and goes on. `row` shows a line of a column. -/
def step (check : OrderCheck) (row : Nat → List Char → List Char) (s : State) : Option State :=
  let order? : Option (Ordering × List Char) :=
    match s.left.lines, s.right.lines with
    | [], [] => none
    | a :: _, [] => some (.lt, a)
    | [], b :: _ => some (.gt, b)
    | a :: _, b :: _ => some (if a < b then (.lt, a) else if a = b then (.eq, a) else (.gt, b))
  order?.map fun (order, line) =>
    let (x, y, z) := s.totals
    let (column, totals) :=
      match order with
      | .lt => (0, (x + 1, y, z))
      | .gt => (1, (x, y + 1, z))
      | .eq => (2, (x, y, z + 1))
    let s :=
      { s with
        events := .text (row column line) :: s.events, apart := s.apart || order != .eq, totals }
    let (left, first) := if order = .gt then (s.left, []) else advance check 1 s s.left
    let (right, second) := if order = .lt then (s.right, []) else advance check 2 s s.right
    { s with left, right, events := second ++ first ++ s.events }

/-- Goes through both files. -/
def run (check : OrderCheck) (row : Nat → List Char → List Char) : Nat → State → State
  | 0, s => s
  | fuel + 1, s =>
    match step check row s with
    | some s => run check row fuel s
    | none => s

end Comparison

open Comparison in
def comm : Body := fun self args => do
  let a ← arguments self
    (.ofText "123z\x01\x02\x03:\x04"
      [("check-order", '\x01'), ("nocheck-order", '\x02'), ("output-delimiter", '\x03'),
        ("total", '\x04'), ("zero-terminated", 'z')])
    1 args
  let separators := (a.options.filter fun o => o.1 == '\x03').map Prod.snd
  match separators with
  | s :: rest =>
    if rest.any (· != s) then do
      complain self "multiple output delimiters specified"
      quit 1
  | [] => pure ()
  let close := if a.has 'z' then '\x00' else '\n'
  match a.operands with
  | [f, g] => do
    let read (file : String) : Run (List (List Char)) := do
      match ← contents file with
      | .ok cs => pure (linesUpTo close cs)
      | .error fault => do
        cannotRead self file fault
        quit 1
    let xs ← read f
    let ys ← read g
    let separator :=
      match separators with
      | s :: _ => if s = "" then ['\x00'] else s.toList
      | [] => ['\t']
    let row (column : Nat) (line : List Char) : List Char :=
      if a.has (Char.ofNat ('1'.toNat + column)) then []
      else
        let before := (['1', '2'].take column).filter fun c => !a.has c
        before.flatMap (fun _ => separator) ++ line ++ [close]
    let s := Comparison.run (orderCheckOf a '\x01' '\x02') row (xs.length + ys.length + 1)
      ⟨⟨xs, [], false⟩, ⟨ys, [], false⟩, [], false, (0, 0, 0)⟩
    s.events.reverse.forM (MergeEvent.tell self)
    if a.has '\x04' then do
      let (x, y, z) := s.totals
      let cells := [toString x, toString y, toString z, "total"].map String.toList
      put self ((cells.intersperse separator).flatten ++ [close])
    if s.left.warned || s.right.warned then do
      complain self "input is not in sorted order"
      quit 1
    pure 0
  | [] => misuse self "missing operand" 1
  | [f] => misuse self s!"missing operand after {← named f}" 1
  | _ :: _ :: x :: _ => misuse self s!"extra operand {← named x}" 1

/-! Lines joined by a field -/

namespace Join

/-- A field that is shown: the common one, or one of a file, counted from zero. -/
inductive Shown
  | common
  | field (file index : Nat)
  deriving DecidableEq, Repr

/-- How lines are joined: by which fields, which separator keeps fields apart, whether case counts,
what is shown, what stands for missing fields, which lines without a counterpart are shown, and
whether joined ones are. -/
structure Plan where
  fields : Nat × Nat
  separator : Option Char
  folds : Bool
  shown : List Shown
  automatic : Bool
  filler : List Char
  alone : Bool × Bool
  pairs : Bool
  check : OrderCheck
  header : Bool
  close : Char

structure Line where
  text : List Char
  fields : List (List Char)

def isGap (c : Char) : Bool := c == ' ' || c == '\t' || c == '\n'

/-- The fields between blanks. Blanks at the end come before one more field, which is empty. -/
def blankFields : Nat → List Char → List (List Char)
  | 0, _ => []
  | fuel + 1, cs =>
    let field := cs.takeWhile fun c => !isGap c
    match cs.drop field.length with
    | [] => [field]
    | rest =>
      match rest.dropWhile isGap with
      | [] => [field, []]
      | rest => field :: blankFields fuel rest

/-- Takes a line apart. -/
def lineOf (p : Plan) (text : List Char) : Line :=
  let fields :=
    match p.separator with
    | some '\n' => if text.isEmpty then [] else [text]
    | some d =>
      if text.isEmpty then []
      else
        text.foldr
          (fun c acc =>
            if c = d then [] :: acc
            else
              match acc with
              | part :: rest => (c :: part) :: rest
              | [] => [[c]])
          [[]]
    | none =>
      let rest := text.dropWhile isGap
      if rest.isEmpty then [] else blankFields (text.length + 1) rest
  ⟨text, fields⟩

/-- Compares two keys. -/
def compareKeys (p : Plan) (a b : List Char) : Ordering :=
  let view (cs : List Char) : List Char := if p.folds then cs.map Char.toUpper else cs
  if view a < view b then .lt else if view a = view b then .eq else .gt

def keyOf (p : Plan) (file : Nat) (l : Line) : List Char :=
  (l.fields[if file = 1 then p.fields.1 else p.fields.2]?).getD []

/-- What is known about a file: its name, the lines ahead, the number of the last one and that line
itself, and whether there was a complaint about it. -/
structure Side where
  file : String
  ahead : List Line
  number : Nat
  last : Option Line
  warned : Bool

structure State where
  left : Side
  right : Side
  events : List MergeEvent
  apart : Bool
  widths : Nat × Nat

abbrev Step := StateM State

def tell (e : MergeEvent) : Step Unit := modify fun s => { s with events := e :: s.events }

/-- Reads the next line of a file, and checks its order. -/
def next (p : Plan) (file : Nat) : Step (Option Line) := do
  let s ← get
  let side := if file = 1 then s.left else s.right
  let keep (side : Side) : Step Unit :=
    modify fun s => if file = 1 then { s with left := side } else { s with right := side }
  match side.ahead with
  | [] => pure none
  | l :: rest => do
    let side := { side with ahead := rest, number := side.number + 1, last := some l }
    let before := if file = 1 then s.left.last else s.right.last
    let applies := p.check == .strict || (p.check == .lazy && s.apart)
    let isWrong := before.any fun b => compareKeys p (keyOf p file b) (keyOf p file l) == .gt
    if applies && !side.warned && isWrong then do
      let message := s!"{side.file}:{side.number}: is not sorted: " ++ String.ofList l.text
      tell (if p.check == .strict then .refusal message else .warning message)
      keep { side with warned := true }
    else keep side
    pure (some l)

/-- Shows two lines as one; one of them may be missing. -/
def shown (p : Plan) (widths : Nat × Nat) (a b : Option Line) : List Char :=
  let separator := p.separator.getD ' '
  let cell (l : Option Line) (i : Nat) : List Char :=
    match (l.bind fun l => l.fields[i]?).getD [] with
    | [] => p.filler
    | cs => cs
  let common := if a.isSome then cell a p.fields.1 else cell b p.fields.2
  let others (l : Option Line) (key width : Nat) : List (List Char) :=
    let count := if p.automatic then width else (l.map fun l => l.fields.length).getD 0
    ((List.range count).filter (· != key)).map (cell l)
  let cells :=
    if p.shown.isEmpty then common :: others a p.fields.1 widths.1 ++ others b p.fields.2 widths.2
    else
      p.shown.map fun
        | .common => common
        | .field 1 i => cell a i
        | .field _ i => cell b i
  (cells.intersperse [separator]).flatten ++ [p.close]

def showPair (p : Plan) (a b : Option Line) : Step Unit := do
  tell (.text (shown p (← get).widths a b))

/-- The lines of a file whose keys equal that of a line of the other one, and the first that
differs. -/
def group (p : Plan) (file : Nat) (fits : Line → Bool) :
    Nat → List Line → Step (List Line × Option Line)
  | 0, acc => pure (acc.reverse, none)
  | fuel + 1, acc => do
    match ← next p file with
    | none => pure (acc.reverse, none)
    | some l => if fits l then group p file fits fuel (l :: acc) else pure (acc.reverse, some l)

/-- Goes through the rest of a file after the other one has ended. -/
def finish (p : Plan) (file : Nat) (alone : Bool) : Nat → Step Unit
  | 0 => pure ()
  | fuel + 1 => do
    match ← next p file with
    | none => pure ()
    | some l => do
      if alone then if file = 1 then showPair p (some l) none else showPair p none (some l)
      finish p file alone fuel

/-- Joins the lines of both files, which are at the given ones. -/
def join (p : Plan) : Nat → Option Line → Option Line → Step (Option Line × Option Line)
  | 0, a, b => pure (a, b)
  | fuel + 1, some a, some b => do
    match compareKeys p (keyOf p 1 a) (keyOf p 2 b) with
    | .lt => do
      if p.alone.1 then showPair p (some a) none
      let a ← next p 1
      modify fun s => { s with apart := true }
      join p fuel a (some b)
    | .gt => do
      if p.alone.2 then showPair p none (some b)
      let b ← next p 2
      modify fun s => { s with apart := true }
      join p fuel (some a) b
    | .eq => do
      let fuel' := (← get).left.ahead.length + (← get).right.ahead.length + 1
      let (as, a') ← group p 1 (fun l => compareKeys p (keyOf p 1 l) (keyOf p 2 b) == .eq) fuel' [a]
      let (bs, b') ← group p 2 (fun l => compareKeys p (keyOf p 1 a) (keyOf p 2 l) == .eq) fuel' [b]
      if p.pairs then as.forM fun x => bs.forM fun y => showPair p (some x) (some y)
      join p fuel a' b'
  | _ + 1, a, b => pure (a, b)

/-- Joins two files. -/
def all (p : Plan) : Step Unit := do
  let s ← get
  let size := s.left.ahead.length + s.right.ahead.length + 1
  let a ← next p 1
  let b ← next p 2
  let count (l : Option Line) : Nat := (l.map fun l => l.fields.length).getD 0
  modify fun s => { s with widths := (count a, count b) }
  let (a, b) ←
    if p.header && (a.isSome || b.isSome) then do
      showPair p (a.orElse fun _ => b.map fun _ => ⟨[], []⟩) b
      modify fun s =>
        { s with left := { s.left with last := none }, right := { s.right with last := none } }
      let a ← if a.isSome then next p 1 else pure none
      let b ← if b.isSome then next p 2 else pure none
      pure (a, b)
    else pure (a, b)
  let (a, b) ← join p size a b
  let s ← get
  let checks := p.check != .never && !(s.left.warned && s.right.warned)
  if (p.alone.1 || checks) && a.isSome then do
    if p.alone.1 then showPair p a none
    if b.isSome then modify fun s => { s with apart := true }
    finish p 1 p.alone.1 size
  if (p.alone.2 || checks) && b.isSome then do
    if p.alone.2 then showPair p none b
    if a.isSome then modify fun s => { s with apart := true }
    finish p 2 p.alone.2 size

/-- Reads the number of a field; the result counts from zero. -/
def fieldNumber (self s : String) : Run Nat := do
  match Quantity.read? "" 0 Quantity.mostNatural s with
  | some q =>
    if q.trails || q.value = 0 then refuse else pure (q.value.toNat - 1)
  | none => refuse
where
  refuse : Run Nat := do
    complain self s!"invalid field number: {← named s}"
    quit 1

/-- Reads one of the fields that are shown. -/
def fieldShown (self s : String) : Run Shown := do
  match s.toList with
  | ['0'] => pure .common
  | '0' :: _ => refuse "invalid field specifier: "
  | '1' :: '.' :: rest => do return .field 1 (← fieldNumber self (String.ofList rest))
  | '2' :: '.' :: rest => do return .field 2 (← fieldNumber self (String.ofList rest))
  | '1' :: _ => refuse "invalid field specifier: "
  | '2' :: _ => refuse "invalid field specifier: "
  | _ => refuse "invalid file number in field spec: "
where
  refuse (message : String) : Run Shown := do
    complain self (message ++ (← named s))
    quit 1

/-- The field by which a file is joined, which all options have to agree about. -/
def joinField (self : String) (a : Arguments) (option : Char) : Run Nat := do
  let given ← (a.options.filter fun o => o.1 == option || o.1 == 'j').mapM fun o =>
    fieldNumber self o.2
  match given with
  | [] => pure 0
  | n :: rest =>
    match rest.find? (· != n) with
    | none => pure n
    | some m => do
      complain self s!"incompatible join fields {n}, {m}"
      quit 1

end Join

open Join in
def join : Body := fun self args => do
  let a ← arguments self
    (.ofText "a:e:i1:2:j:o:t:v:z\x01\x02\x03"
      [("ignore-case", 'i'), ("check-order", '\x01'), ("nocheck-order", '\x02'),
        ("zero-terminated", 'z'), ("header", '\x03')])
    1 args
  let alone ← (a.options.filter fun o => o.1 == 'a' || o.1 == 'v').mapM fun o => do
    match (Quantity.read? "" 0 2 o.2).filter fun q => !q.trails && !q.exceeds && q.value != 0 with
    | some q => pure q.value
    | none => do
      complain self s!"invalid field number: {← named o.2}"
      quit 1
  let fillers := (a.options.filter fun o => o.1 == 'e').map Prod.snd
  if fillers.any fun f => some f != fillers.head? then do
    complain self "conflicting empty-field replacement strings"
    quit 1
  let separators ← (a.options.filter fun o => o.1 == 't').mapM fun o => do
    match o.2.toList with
    | [] => pure '\n'
    | [c] => pure c
    | ['\\', '0'] => pure '\x00'
    | _ => do
      complain self s!"multi-character tab {← named o.2}"
      quit 1
  if separators.any fun c => some c != separators.head? then do
    complain self "incompatible tabs"
    quit 1
  let formats := (a.options.filter fun o => o.1 == 'o').map Prod.snd
  let isWord (c : Char) : Bool := c != ',' && c != ' ' && c != '\t'
  let words := (formats.filter (· != "auto")).flatMap fun f =>
    (piecesBetween (fun c => !isWord c) f.toList).map String.ofList
  let shown ← words.mapM (fieldShown self)
  let first ← joinField self a '1'
  let second ← joinField self a '2'
  match a.operands with
  | [f, g] => do
    if f = "-" && g = "-" then do
      complain self s!"both files cannot be standard input: {Fault.missing.reason}"
      quit 1
    let p : Plan :=
      { fields := (first, second), separator := separators.head?, folds := a.has 'i', shown
        automatic := formats.contains "auto", filler := (fillers.headD "").toList
        alone := (alone.contains 1, alone.contains 2), pairs := !a.has 'v'
        check := orderCheckOf a '\x01' '\x02', header := a.has '\x03'
        close := if a.has 'z' then '\x00' else '\n' }
    let read (file : String) : Run (List Line) := do
      match ← contents file with
      | .ok cs => pure ((linesUpTo p.close cs).map (lineOf p))
      | .error fault => do
        if fault = .isDirectory ∨ fault = .badStream then
          complain self s!"read error: {fault.reason}"
        else cannotRead self file fault
        quit 1
    let side (file : String) : Run Join.Side := do return ⟨file, ← read file, 0, none, false⟩
    let (_, s) := (Join.all p).run ⟨← side f, ← side g, [], false, (0, 0)⟩
    s.events.reverse.forM (MergeEvent.tell self)
    if s.left.warned || s.right.warned then do
      complain self "input is not in sorted order"
      quit 1
    pure 0
  | [] => misuse self "missing operand" 1
  | [f] => misuse self s!"missing operand after {← named f}" 1
  | _ :: _ :: x :: _ => misuse self s!"extra operand {← shellName true x}" 1

end CredoAssistant.Shell.Program
