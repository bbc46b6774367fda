import CredoAssistant.Shell.Program.Common

/-!
Paragraphs filled anew: their words are set in lines that come close to a width, with breaks chosen
so that the whole paragraph looks best.
-/
namespace CredoAssistant.Shell.Program

namespace Filling

/-- How far lines of a paragraph are indented: all alike, by the first two lines, or so that the
first line differs from the rest; or each line stands for itself. -/
inductive Shape
  | plain
  | crown
  | tagged
  | split
  deriving DecidableEq, Repr

/-- How paragraphs are filled. The prefix is kept apart from the blanks before and behind it;
`reach` is its length with those behind it. -/
structure Plan where
  shape : Shape
  uniform : Bool
  most : Nat
  goal : Nat
  lead : Nat
  sign : List Char
  reach : Nat

/-- A word, the room behind it, and what it ends: a sentence, perhaps a line. -/
structure Word where
  text : List Char
  space : Nat
  opens : Bool
  pauses : Bool
  stops : Bool
  isLast : Bool
  deriving Repr

/-- Where reading has come to: what is left, the column, whether there were tabs, and where the
prefix of the next line stands. -/
structure Source where
  rest : List Char
  column : Nat
  tabs : Bool
  signColumn : Nat

/-- Steps over blanks. -/
def Source.skipBlanks (s : Source) : Source :=
  let blanks := s.rest.takeWhile fun c => c == ' ' || c == '\t'
  blanks.foldl
    (fun (s : Source) c =>
      if c = ' ' then { s with rest := s.rest.tail, column := s.column + 1 }
      else { s with rest := s.rest.tail, column := (s.column / 8 + 1) * 8, tabs := true })
    s

/-- Steps over a prefix, as far as it is there; whether it is there as a whole. -/
def Source.skipSign : List Char → Source → Source × Bool
  | [], s => (s, true)
  | c :: sign, s =>
    if s.rest.head? = some c then
      Source.skipSign sign { s with rest := s.rest.tail, column := s.column + 1 }
    else (s, false)

/-- Begins a line: its blanks, the prefix, and the blanks behind that. -/
def Source.beginLine (p : Plan) (s : Source) : Source :=
  let s := Source.skipBlanks { s with column := 0 }
  if p.sign.isEmpty then { s with signColumn := min p.lead s.column }
  else
    match Source.skipSign p.sign { s with signColumn := s.column } with
    | (s, true) => s.skipBlanks
    | (s, false) => s

/-- Whether nothing else stands in the line. -/
def Source.isEmptyLine (s : Source) : Bool := s.rest.isEmpty || s.rest.head? == some '\n'

/-- Blanks from a column on, with tabs where there were some. -/
def blanks (tabs : Bool) (column count : Nat) : List Char :=
  let goal := column + count
  let stop := goal / 8 * 8
  if tabs && column + 1 < stop then
    List.replicate ((stop - column / 8 * 8) / 8) '\t' ++ List.replicate (goal - stop) ' '
  else List.replicate count ' '

/-- A line that is no part of a paragraph, and the place of its end. -/
def copied (p : Plan) (s : Source) : List Char × Source :=
  let line := s.rest.takeWhile (· != '\n')
  let left := s.rest.drop line.length
  let isOpen := left.isEmpty
  let front :=
    if s.signColumn < s.column || !line.isEmpty then
      let lead := blanks s.tabs 0 s.signColumn
      let sign := p.sign.take (s.column - s.signColumn)
      let column := s.signColumn + sign.length
      let isShort := isOpen && s.signColumn + p.sign.length ≤ s.column
      lead ++ sign
        ++ (if line.isEmpty then [] else blanks s.tabs column (s.column - column))
        ++ (if line.isEmpty && isShort then ['\n'] else [])
    else []
  (front ++ line, { s with rest := left })

def isSpace (c : Char) : Bool := " \t\n\x0b\x0c\r".toList.contains c

def isPunctuation (c : Char) : Bool := '!' ≤ c && c ≤ '~' && !c.isAlphanum

/-- A word as it was read, with the room behind it and whether a line ends there. -/
def Word.of (p : Plan) (text : List Char) (space : Nat) (endsLine endsAll : Bool) : Word :=
  let inner := (text.reverse.dropWhile fun c => ")]'\"".toList.contains c).reverse
  let finish := if inner.isEmpty then text.take 1 else inner
  let stops := finish.getLast?.any ".?!".toList.contains
  let isLast := endsAll || (stops && (endsLine || 1 < space))
  { text, stops, isLast
    space := if endsLine || endsAll || p.uniform then (if isLast then 2 else 1) else space
    opens := text.head?.any "(['\x60\"".toList.contains
    pauses := text.getLast?.any isPunctuation }

/-- The words of the line at work, and the beginning of the next line. -/
def readLine (p : Plan) : Nat → Source → List Word × Source
  | 0, s => ([], s)
  | fuel + 1, s =>
    let first := s.rest.take 1
    let text := first ++ (s.rest.drop 1).takeWhile fun c => !isSpace c
    let column := s.column + text.length
    let behind := Source.skipBlanks { s with rest := s.rest.drop text.length, column }
    let endsAll := behind.rest.isEmpty
    let endsLine := behind.rest.head? == some '\n'
    let word := Word.of p text (behind.column - column) endsLine endsAll
    if endsAll || endsLine then
      ([word], Source.beginLine p { behind with rest := behind.rest.tail })
    else
      let (more, s) := readLine p fuel behind
      (word :: more, s)

/-- Whether the line at work goes on with a paragraph whose prefix stands in a column. -/
def isSame (p : Plan) (signColumn : Nat) (s : Source) : Bool :=
  s.signColumn == signColumn && s.signColumn + p.reach ≤ s.column && !s.isEmptyLine

/-- The words of the lines that go on with a paragraph at an indentation. -/
def readRest (p : Plan) (signColumn indent : Nat) : Nat → Source → List Word × Source
  | 0, s => ([], s)
  | fuel + 1, s =>
    if isSame p signColumn s && s.column == indent then
      let (words, s) := readLine p (s.rest.length + 1) s
      let (more, s) := readRest p signColumn indent fuel s
      (words ++ more, s)
    else ([], s)

/-! The cost of lines -/

def square (n : Int) : Int := n * n

/-- What a line costs whose length misses the goal. -/
def shortCost (n : Int) : Int := square (n * 10)

/-- What it costs that two lines in turn differ in length. -/
def raggedCost (n : Int) : Int := shortCost n / 2

/-- What it costs that a line starts at a word; `before` holds the words before it, the last one
first. -/
def baseCost (before : List Word) (w : Word) : Int :=
  let front : Int :=
    match before with
    | [] => 0
    | b :: more =>
      if b.stops then (if b.isLast then -square 50 else square 600)
      else if b.pauses then -square 40
      else
        if more.head?.any Word.isLast then square 200 / (b.text.length + 2) else 0
  let own : Int :=
    if w.opens then -square 40 else if w.isLast then square 150 / (w.text.length + 2) else 0
  square 70 + front + own

/-- A word with the best way to break the lines from it on: the cost, the number of words in the
first of these lines and its length, and whether it is the last line. -/
structure Choice where
  word : Word
  cost : Int
  count : Nat
  length : Nat
  ends : Bool

/-- Tries all ends of a line that has some words and a length already; the first one of the best
ends is taken. -/
def bestEnd (p : Plan) : List Choice → Word → Nat → Nat → Option (Int × Nat × Nat × Bool) →
    Option (Int × Nat × Nat × Bool)
  | behind, w, count, length, best =>
    let better (cost : Int) (ends : Bool) : Option (Int × Nat × Nat × Bool) :=
      match best with
      | some b => if cost < b.1 then some (cost, count, length, ends) else best
      | none => some (cost, count, length, ends)
    match behind with
    | [] => better 0 true
    | next :: rest =>
      let own := shortCost ((p.goal : Int) - length)
        + if next.ends then 0 else raggedCost ((length : Int) - next.length)
      let best := better (own + next.cost) false
      let length := length + w.space + next.word.text.length
      if length < p.most then bestEnd p rest next.word (count + 1) length best else best

/-- The best ways to break the lines of a paragraph; `before` holds the words before these, the last
one first. -/
def choices (p : Plan) (first other : Nat) : List Word → List Word → List Choice
  | _, [] => []
  | before, w :: rest =>
    let behind := choices p first other (w :: before) rest
    let length := (if before.isEmpty then first else other) + w.text.length
    match bestEnd p behind w 1 length none with
    | some (cost, count, length, ends) =>
      ⟨w, cost + baseCost before w, count, length, ends⟩ :: behind
    | none => ⟨w, 0, 1, length, true⟩ :: behind

/-- The lines of a paragraph, of which the first one has an indentation of its own. -/
def layOut (p : Plan) (tabs : Bool) (signColumn other : Nat) :
    Nat → Nat → List Choice → List (List Char)
  | 0, _, _ => []
  | fuel + 1, indent, cs =>
    match cs with
    | [] => []
    | c :: _ =>
      let lead := blanks tabs 0 signColumn ++ p.sign
      let column := signColumn + p.sign.length
      let words := (cs.take c.count).map Choice.word
      let (line, _, _) := words.foldl
        (fun (acc : List Char × Nat × Nat) w =>
          let (line, column, space) := acc
          (line ++ blanks tabs column space ++ w.text, column + space + w.text.length, w.space))
        (lead, column, indent - column)
      line :: layOut p tabs signColumn other fuel other (cs.drop c.count)

/-- Marks the last word of a paragraph. -/
def close (words : List Word) : List Word :=
  match words.getLast? with
  | some w => words.dropLast ++ [{ w with stops := true, isLast := true }]
  | none => []

/-- The indentation of a paragraph behind its first line. -/
def otherIndent (p : Plan) (first before : Nat) (isSame : Bool) (column : Nat) : Nat :=
  match p.shape with
  | .split => first
  | .plain => first
  | .crown => if isSame then column else first
  | .tagged =>
    if isSame && column != first then column
    else if before = first then (if first = 0 then 3 else 0)
    else before

/-- Fills all paragraphs of a text. `before` is the indentation of the last one behind its first
line. -/
def fill (p : Plan) : Nat → Nat → Source → List Char
  | 0, _, _ => []
  | fuel + 1, before, s =>
    let isOutside := s.isEmptyLine || s.signColumn < p.lead || s.column < s.signColumn + p.reach
    if isOutside then
      let (text, s) := copied p s
      match s.rest with
      | [] => text
      | _ :: rest => text ++ '\n' :: fill p fuel before (Source.beginLine p { s with rest })
    else
      let signColumn := s.signColumn
      let first := s.column
      let (words, s) := readLine p (s.rest.length + 1) s
      let same := isSame p signColumn s
      let other := otherIndent p first before same s.column
      let goesOn :=
        match p.shape with
        | .split => false
        | .tagged => same && s.column != first
        | _ => true
      let indent := if p.shape = .crown then s.column else other
      let (more, s) :=
        if goesOn then readRest p signColumn indent (s.rest.length + 1) s else ([], s)
      let chosen := choices p first other [] (close (words ++ more))
      let lines := layOut p s.tabs signColumn other chosen.length first chosen
      unlines lines ++ fill p fuel other s

end Filling

open Filling in
def fmt : Body := fun self args => do
  let (old, args) :=
    match args with
    | a :: rest =>
      match a.toList with
      | '-' :: d :: more =>
        if d.isDigit then (some (String.ofList (d :: more)), rest) else (none, args)
      | _ => (none, args)
    | [] => (none, args)
  let a ← do
    match readArguments
      (.ofText "0123456789cstuw:p:g:"
        [("crown-margin", 'c'), ("prefix", 'p'), ("split-only", 's'), ("tagged-paragraph", 't'),
          ("uniform-spacing", 'u'), ("width", 'w'), ("goal", 'g')])
      (args.length + 1) args with
    | .ok a => pure a
    | .error message => misuse self message 1
  match a.options.find? fun o => o.1.isDigit with
  | some (d, _) => do
    complain self (s!"invalid option -- {d}; -WIDTH is recognized only when it is the first\n"
      ++ "option; use -w N instead")
    hint self 1
  | none => pure ()
  let shape : Shape :=
    if a.has 's' then .split else if a.has 'c' then .crown else if a.has 't' then .tagged
    else .plain
  let number (most : Nat) (s : String) : Run Nat := do
    let n ← bounded self "invalid width" (Quantity.read? "" 0 Quantity.mostNatural s) 0 most s
    pure n.toNat
  let width ← ((a.value? 'w').orElse fun _ => old).mapM (number 2500)
  let most := width.getD 75
  let goal ← (a.value? 'g').mapM (number most)
  let (most, goal) :=
    match goal with
    | some g => (if width.isSome then most else g + 10, g)
    | none => (most, most * 187 / 200)
  let sign := (a.value? 'p').getD ""
  let lead := (sign.toList.takeWhile (· == ' ')).length
  let full := sign.toList.drop lead
  let bare := (full.reverse.dropWhile (· == ' ')).reverse
  let p : Plan := ⟨shape, a.has 'u', most, goal, lead, bare, full.length⟩
  let files := inputs a
  let failed ← anyFails files fun file => do
    match ← contents file with
    | .ok cs => do
      put self (fill p (cs.length + 2) 0 (Source.beginLine p ⟨cs, 0, false, 0⟩))
      pure false
    | .error fault =>
      if fault = .isDirectory || file = "-" then fails self "read error"
      else fails self s!"cannot open {← shellName true file} for reading: {fault.reason}"
  if files.contains "-" && (← lacksInput) then do
    complain self s!"closing standard input: {Fault.badStream.reason}"
    pure 1
  else pure (statusOf failed)

end CredoAssistant.Shell.Program
