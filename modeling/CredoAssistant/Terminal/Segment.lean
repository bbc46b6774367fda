import CredoAssistant.Terminal.Width

/-!
Texts in terminal cells, and styled lines. A text is measured and cut by clusters: a character with
the ones behind it that join it and take no cells of their own. A line is a list of segments with
one style each; it is written with escape codes or without.
-/
namespace CredoAssistant.Terminal

/-! ### Cells -/

/-- Characters that stay together, and the number of cells that they take. -/
structure Cluster where
  chars : List Char
  cells : Nat
  deriving DecidableEq, Repr

/-- Joins the character behind it to the one before it. -/
def joiner : Char := '\u200d'

/-- Asks for the emoji form of the character before it. -/
def selector : Char := '\ufe0f'

/-- Cuts a text into clusters. `done` holds the clusters so far, the last one first, and `last` the
last character with cells of its own. -/
def clustersFrom (done : List Cluster) (last : Option Char) : List Char → List Cluster
  | [] => done.reverse
  | c :: rest =>
    match done with
    | [] => clustersFrom [⟨[c], if c = joiner ∨ c = selector then 0 else width c⟩]
        (if c = joiner ∨ c = selector ∨ width c = 0 then none else some c) rest
    | k :: ks =>
      if c = joiner then
        match rest with
        | [] => clustersFrom (⟨k.chars ++ [c], k.cells⟩ :: ks) last []
        | d :: tail => clustersFrom (⟨k.chars ++ [c, d], k.cells⟩ :: ks) last tail
      else if c = selector then
        match last with
        | some l =>
          if isWidened l then clustersFrom (⟨k.chars ++ [c], k.cells + 1⟩ :: ks) none rest
          else clustersFrom (⟨k.chars ++ [c], k.cells⟩ :: ks) last rest
        | none => clustersFrom (⟨k.chars ++ [c], k.cells⟩ :: ks) last rest
      else if width c = 0 then clustersFrom (⟨k.chars ++ [c], k.cells⟩ :: ks) last rest
      else clustersFrom (⟨[c], width c⟩ :: done) (some c) rest

/-- The clusters of a text. -/
def clusters (cs : List Char) : List Cluster := clustersFrom [] none cs

/-- Counts the cells of a text after `n` others. A joiner takes away the character behind it; `last`
is the last character with cells that no selector has widened. -/
def cellsFrom (n : Nat) (last : Option Char) : List Char → Nat
  | [] => n
  | c :: rest =>
    if c = joiner then
      match rest with
      | [] => n
      | _ :: tail => cellsFrom n last tail
    else if c = selector then
      cellsFrom (if last.any isWidened then n + 1 else n) none rest
    else if width c = 0 then cellsFrom n last rest
    else cellsFrom (n + width c) (some c) rest

/-- The number of cells that a text takes. -/
def cellCount (cs : List Char) : Nat := cellsFrom 0 none cs

/-- Why a text cannot be cut. With joiners in front its clusters may take fewer cells than the text
counts: none at all, or not as many as are asked for. -/
inductive CellFault
  | noCells
  | tooFewCells
  deriving DecidableEq, Repr

def CellFault.message : CellFault → String
  | noCells => "division by zero"
  | tooFewCells => "list index out of range"

/-- The clusters at the front that fit into `room` cells. Half a cluster becomes a blank. -/
def takeCells (room : Nat) : List Cluster → Except CellFault (List Char)
  | [] => if room = 0 then .ok [] else .error .tooFewCells
  | k :: rest =>
    if room = 0 then .ok []
    else if k.cells ≤ room then do
      let more ← takeCells (room - k.cells) rest
      .ok (k.chars ++ more)
    else .ok [' ']

/-- The text cut or filled up with blanks to exactly `room` cells. -/
def fitCells (room : Nat) (cs : List Char) : Except CellFault (List Char) :=
  let n := cellCount cs
  if n ≤ room then .ok (cs ++ List.replicate (room - n) ' ')
  else if room = 0 then .ok []
  else
    let ks := clusters cs
    if ks.all fun k => k.cells = 0 then .error .noCells else takeCells room ks

/-- Pieces of at most `room` cells. `piece` holds the current one in reverse, which takes `used`
cells. -/
def chopFrom (room : Nat) (piece : List Char) (used : Nat) : List Cluster → List (List Char)
  | [] => if used = 0 then [] else [piece.reverse]
  | k :: rest =>
    if room < used + k.cells then piece.reverse :: chopFrom room k.chars.reverse k.cells rest
    else chopFrom room (k.chars.reverse ++ piece) (used + k.cells) rest

/-- A text in pieces of at most `room` cells. -/
def chopCells (room : Nat) (cs : List Char) : List (List Char) := chopFrom room [] 0 (clusters cs)

/-! ### Styles -/

/-- The styles in use. -/
inductive Style
  | plain
  | bold
  | dim
  | red
  | boldRed
  | green
  | yellow
  | cyan
  deriving DecidableEq, Repr, Inhabited

namespace Style

/-- The parameters of the escape code that turns a style on; the plain style needs none. -/
def code? : Style → Option String
  | plain => none
  | bold => some "1"
  | dim => some "2"
  | red => some "31"
  | boldRed => some "1;31"
  | green => some "32"
  | yellow => some "33"
  | cyan => some "36"

end Style

/-- A piece of a line with one style. -/
structure Segment where
  chars : List Char
  style : Style
  deriving DecidableEq, Repr

namespace Segment

def plain (cs : List Char) : Segment := ⟨cs, .plain⟩

def blank (n : Nat) (style : Style) : Segment := ⟨List.replicate n ' ', style⟩

def cells (s : Segment) : Nat := cellCount s.chars

/-- A segment as text. Its style shows in a colour terminal, unless there is nothing to style. -/
def write (color : Bool) (s : Segment) : List Char :=
  match color, s.style.code?, s.chars with
  | true, some code, c :: cs =>
    '\x1b' :: '[' :: code.toList ++ 'm' :: c :: cs ++ "\x1b[0m".toList
  | _, _, cs => cs

end Segment

/-- The segments of one line. -/
abbrev Line := List Segment

namespace Line

def cells (l : Line) : Nat := l.foldl (fun n s => n + s.cells) 0

/-- The front of a line that fits into `room` cells. The segment that reaches the end is cut
there. -/
def crop (room : Nat) : Line → Except CellFault Line
  | [] => .ok []
  | s :: rest =>
    if s.cells < room then do
      let more ← crop (room - s.cells) rest
      .ok (s :: more)
    else do
      let cs ← fitCells room s.chars
      .ok [⟨cs, s.style⟩]

/-- A line cut or filled up with blanks to exactly `room` cells. -/
def fit (room : Nat) (style : Style) (l : Line) : Except CellFault Line :=
  let n := cells l
  if n < room then .ok (l ++ [Segment.blank (room - n) style])
  else if room < n then crop room l
  else .ok l

/-- A line with a blank on each side, cut or filled up to `room` cells within and to two more with
them. -/
def pad (room : Nat) (l : Line) : Except CellFault Line := do
  let inner ← fit room .plain l
  fit (room + 2) .plain (Segment.blank 1 .plain :: inner ++ [Segment.blank 1 .plain])

/-- A line cut to at most `room` cells. -/
def limit (room : Nat) (l : Line) : Except CellFault Line :=
  if room < cells l then crop room l else .ok l

end Line

/-- Lines as text for a terminal of `width` cells, each behind the other with a line feed. Without
any width nothing is written. -/
def writeLines (width : Nat) (color : Bool) (lines : List Line) : Except CellFault String :=
  if width = 0 then .ok ""
  else do
    let shown ← lines.mapM (Line.limit width)
    .ok (String.ofList (shown.flatMap fun l => l.flatMap (Segment.write color) ++ ['\n']))

end CredoAssistant.Terminal
