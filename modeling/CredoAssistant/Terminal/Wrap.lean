import CredoAssistant.Terminal.Segment
import CredoAssistant.Text.Blank

/-!
Wrapping of texts to a width in cells. Lines break at word ends; a word that is wider than a line is
folded over several lines or cut.
-/
namespace CredoAssistant.Terminal

open Text (isBlank)

/-- How the lines of a text stand in their room. The natural one leaves them as they are. -/
inductive Justify
  | natural
  | left
  | center
  | right
  deriving DecidableEq, Repr

/-- What becomes of a word that is wider than a line: it is folded, or cut with an ellipsis. -/
inductive Overflow
  | fold
  | ellipsis
  deriving DecidableEq, Repr

/-- A text without line feeds in one style. -/
structure Paragraph where
  chars : List Char
  style : Style
  deriving DecidableEq, Repr

/-- The pieces of a text between the characters of class `p`. -/
def splitWhere (p : Char → Bool) (piece : List Char) : List Char → List (List Char)
  | [] => [piece.reverse]
  | c :: rest =>
    if p c then piece.reverse :: splitWhere p [] rest else splitWhere p (c :: piece) rest

/-- Control characters that are never shown: bell, backspace, vertical tab, form feed and carriage
return. -/
def isDropped (c : Char) : Bool :=
  c == '\x07' || c == '\x08' || c == '\x0b' || c == '\x0c' || c == '\r'

/-- The characters of a text that are shown. -/
def shown (s : String) : List Char := s.toList.filter fun c => !isDropped c

/-- The paragraphs of a text in one style, one for each line of it. -/
def paragraphs (s : String) (style : Style) : List Paragraph :=
  (splitWhere (· == '\n') [] (shown s)).map fun cs => ⟨cs, style⟩

/-- Puts blanks for the tabulators between the pieces of a line, up to the next multiple of eight
cells. `column` counts the cells before the first piece. -/
def fillTabs (column : Nat) : List (List Char) → List (List Char)
  | [] => []
  | [last] => [last]
  | piece :: rest =>
    let stop := column + cellCount (piece ++ [' '])
    let gap := (8 - stop % 8) % 8
    (piece ++ ' ' :: List.replicate gap ' ') :: fillTabs (stop + gap) rest

/-- The parts of a line that its tabulators end, with blanks for them. -/
def tabParts (cs : List Char) : List (List Char) := fillTabs 0 (splitWhere (· == '\t') [] cs)

/-- A line with blanks for its tabulators. -/
def expandTabs (cs : List Char) : List Char := (tabParts cs).flatten

/-- A word with the blanks before and behind it. Only the first word of a text has blanks before
it. -/
def takeWord (cs : List Char) : List Char × List Char :=
  let front := cs.takeWhile isBlank
  let rest := cs.dropWhile isBlank
  let body := rest.takeWhile fun c => !isBlank c
  let rest := rest.dropWhile fun c => !isBlank c
  (front ++ body ++ rest.takeWhile isBlank, rest.dropWhile isBlank)

/-- The words of a text; blanks without a word have none. -/
def words : Nat → List Char → List (List Char)
  | 0, _ => []
  | fuel + 1, cs =>
    if cs.all isBlank then []
    else
      let (word, rest) := takeWord cs
      word :: words fuel rest

/-- The places where the pieces of a folded word start, and the cells of its last piece, or `column`
when there is none. A piece at the start of the text begins no line. -/
def foldBreaks (column start : Nat) : List (List Char) → List Nat × Nat
  | [] => ([], column)
  | [last] => (if start = 0 then [] else [start], cellCount last)
  | piece :: rest =>
    let (breaks, cells) := foldBreaks column (start + piece.length) rest
    (if start = 0 then breaks else start :: breaks, cells)

/-- The places where a line begins. `start` is the place of the next word and `column` the cells
used on the current line. -/
def breaksFrom (room : Nat) (fold : Bool) (start column : Nat) : List (List Char) → List Nat
  | [] => []
  | word :: rest =>
    let next := start + word.length
    let body := cellCount (Text.trimEnd isBlank word)
    if column + body ≤ room then breaksFrom room fold next (column + cellCount word) rest
    else if room < body then
      if fold then
        let (breaks, cells) := foldBreaks column start (chopCells room word)
        breaks ++ breaksFrom room fold next cells rest
      else
        let tail := breaksFrom room fold next (cellCount word) rest
        if start = 0 then tail else start :: tail
    else if column = 0 ∨ start = 0 then breaksFrom room fold next column rest
    else start :: breaksFrom room fold next (cellCount word) rest

/-- Cuts a text at ascending places. -/
def cutAt (place : Nat) (cs : List Char) : List Nat → List (List Char)
  | [] => [cs]
  | b :: rest => cs.take (b - place) :: cutAt b (cs.drop (b - place)) rest

/-- Drops blanks at the end of a line that has more characters than the room has cells, as far as
that is needed. -/
def dropExcess (room : Nat) (cs : List Char) : List Char :=
  let blanks := (cs.reverse.takeWhile isBlank).length
  cs.take (cs.length - min blanks (cs.length - room))

/-- A line cut to its room; an ellipsis takes the last cell. -/
def truncate (room : Nat) (overflow : Overflow) (cs : List Char) :
    Except CellFault (List Char) :=
  if cellCount cs ≤ room then .ok cs
  else
    match overflow with
    | .fold => fitCells room cs
    | .ellipsis => do
      let front ← fitCells (room - 1) cs
      .ok (front ++ ['…'])

/-- A line with the blanks that put it in its place. -/
def justify (room : Nat) (how : Justify) (overflow : Overflow) (cs : List Char) :
    Except CellFault (List Char) := do
  match how with
  | .natural => .ok cs
  | .left => do
    let line ← truncate room overflow cs
    .ok (line ++ List.replicate (room - cellCount cs) ' ')
  | .center => do
    let line ← truncate room overflow (Text.trimEnd isBlank cs)
    let before := List.replicate ((room - cellCount line) / 2) ' ' ++ line
    .ok (before ++ List.replicate (room - cellCount before) ' ')
  | .right => do
    let line ← truncate room overflow (Text.trimEnd isBlank cs)
    .ok (List.replicate (room - cellCount line) ' ' ++ line)

/-- The places at the ends of some parts that follow each other from `place` on. -/
def partEnds (place : Nat) : List (List Char) → List Nat
  | [] => []
  | part :: rest => (place + part.length) :: partEnds (place + part.length) rest

/-- The lines of a paragraph in `room` cells, each in the parts that tabulators end. -/
def wrapParagraph (room : Nat) (how : Justify) (overflow : Overflow) (p : Paragraph) :
    Except CellFault (List (List (List Char))) :=
  let parts := tabParts p.chars
  let cs := parts.flatten
  let ends := partEnds 0 parts
  let breaks := breaksFrom room (overflow == .fold) 0 0 (words (cs.length + 1) cs)
  ((0 :: breaks).zip (cutAt 0 cs breaks)).mapM fun (start, line) => do
    let line ← truncate room overflow (← justify room how overflow (dropExcess room line))
    .ok (if how == .natural then cutAt start line (ends.filter (start < ·)) else [line])

/-- A line in the parts of a text; an empty part has no segment. -/
def lineOf (style : Style) (parts : List (List Char)) : Line :=
  (parts.filter fun cs => !cs.isEmpty).map fun cs => ⟨cs, style⟩

/-- The lines of several paragraphs in `room` cells. Without any room there is no line. -/
def wrap (room : Nat) (how : Justify) (overflow : Overflow) (ps : List Paragraph) :
    Except CellFault (List Line) :=
  if room = 0 then .ok []
  else do
    let wrapped ← ps.mapM fun p => do
      .ok ((← wrapParagraph room how overflow p).map (lineOf p.style))
    .ok wrapped.flatten

/-- The cells of the widest line of some texts, at least `low`. -/
def widest (low : Nat) (texts : List (List Char)) : Nat :=
  texts.foldl (fun n cs => max n (cellCount cs)) low

end CredoAssistant.Terminal
