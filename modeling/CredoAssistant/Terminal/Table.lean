import CredoAssistant.Number.Binary64
import CredoAssistant.Terminal.Wrap

/-!
Boxes on a terminal. A panel is a text in a box of rounded corners with a title in its upper edge.

Tables fill the width of the terminal: a centred title, a bold header over a rule, and rows whose
cells wrap in their columns. Columns start at their widest cell; the widest ones give way when the
room is short, and all share what is left over.
-/
namespace CredoAssistant.Terminal

/-! ### Panels -/

/-- A box with a title, a body and one style for its edges. -/
structure Panel where
  title : String
  body : List Paragraph
  border : Style
  deriving Repr

namespace Panel

def rule (n : Nat) : List Char := List.replicate n '─'

/-- The title on one line with a blank on each side, cut to `room` cells. -/
def titleText (room : Nat) (title : String) : Except CellFault (List Char) :=
  let oneLine := (shown title).map fun c => if c = '\n' then ' ' else c
  truncate room .fold (' ' :: expandTabs oneLine ++ [' '])

/-- The upper edge of a panel of `width` cells. -/
def top (width : Nat) (p : Panel) : Except CellFault Line :=
  let edge (cs : List Char) : Segment := ⟨cs, p.border⟩
  if (shown p.title).isEmpty ∨ width ≤ 4 then .ok [edge ('╭' :: rule (width - 2) ++ ['╮'])]
  else do
    let room := width - 4
    let title ← titleText room p.title
    let gap := room - cellCount title
    let middle :=
      if gap = 0 then [edge title]
      else [edge (rule (gap / 2)), edge title, edge (rule (gap - gap / 2))]
    .ok ([edge ['╭', '─']] ++ middle ++ [edge ['─', '╮']])

/-- The lines of a panel as wide as a terminal of `width` cells. -/
def lines (width : Nat) (p : Panel) : Except CellFault (List Line) := do
  let side : Segment := ⟨['│'], p.border⟩
  let room := width - 4
  let inner ← (← wrap room .natural .fold p.body).mapM (Line.pad room)
  let top ← p.top width
  let bottom : Line := [⟨'╰' :: rule (width - 2) ++ ['╯'], p.border⟩]
  .ok (top :: inner.map (fun line => side :: line ++ [side]) ++ [bottom])

end Panel

/-! ### Tables -/

/-- A column: its header, where its cells stand and what becomes of words that do not fit. -/
structure Column where
  header : String
  justify : Justify
  overflow : Overflow
  deriving DecidableEq, Repr

/-- The text of a cell. -/
abbrev Cell := List Paragraph

/-- A table whose rows have one cell for each column. -/
structure Table where
  title : String
  columns : List Column
  rows : List (List Cell)
  deriving Repr

namespace Table

/-- Characters that end a line when a cell is measured. -/
def isLineEnd (c : Char) : Bool :=
  ('\x1c' ≤ c && c ≤ '\x1e') || c == '\u0085' || c == '\u2028' || c == '\u2029'

/-- The cells of the widest line of a cell. -/
def cellWidth (cell : Cell) : Nat :=
  widest 0 (cell.flatMap fun p => splitWhere isLineEnd [] p.chars)

/-- The cells that a column asks for, with a blank on each side. A column of no more than two cells
takes the whole room. -/
def askedWidth (room : Nat) (cells : List Cell) : Nat :=
  let one (cell : Cell) : Nat := if room < 3 then room else min room (cellWidth cell + 2)
  max 1 (cells.foldl (fun n c => max n (one c)) 0)

/-- Takes `total` from the widths in equal parts, but at most `limit` from each of those that
`takes` selects. -/
def reduceWhere (takes : Nat → Bool) (limit : Nat → Nat) (total parts : Nat) :
    List Nat → List Nat
  | [] => []
  | w :: rest =>
    if takes w && 0 < parts then
      let d := min (limit w) (Binary64.roundDiv total parts)
      (w - d) :: reduceWhere takes limit (total - d) (parts - 1) rest
    else w :: reduceWhere takes limit total parts rest

/-- Lowers the widest columns together to the next widest, until the widths fit into `room`. -/
def collapse (room : Nat) : Nat → List Nat → List Nat
  | 0, ws => ws
  | fuel + 1, ws =>
    let excess := ws.sum - room
    if excess = 0 then ws
    else
      let top := ws.foldl max 0
      let next := (ws.filter (· != top)).foldl max 0
      let step := min excess (top - next)
      collapse room fuel
        (reduceWhere (· == top) (fun _ => step) excess (ws.count top) ws)

/-- Shares `total` among the widths in proportion to them, rounding up. -/
def distribute (total parts : Nat) : List Nat → List Nat
  | [] => []
  | w :: rest =>
    let d := if parts = 0 then total else (w * total + parts - 1) / parts
    (w + d) :: distribute (total - d) (parts - w) rest

/-- The widths of the columns, which fill `room` together. -/
def columnWidths (room : Nat) (columns : List (List Cell)) : List Nat :=
  let asked := columns.map (askedWidth room)
  let ws := collapse room asked.sum asked
  distribute (room - ws.sum) ws.sum ws

/-- The lines of a cell in a column of `width` cells; one that has no room between its blanks has
none. -/
def cellLines (width : Nat) (column : Column) (style : Style) (cell : Cell) :
    Except CellFault (List Line) := do
  let styled (s : Segment) : Segment := if style = .plain then s else ⟨s.chars, style⟩
  let wrapped ← wrap (width - 2) column.justify column.overflow cell
  let padded ← wrapped.mapM (Line.pad (width - 2))
  .ok (padded.map fun line => line.map styled)

/-- Puts blank lines before or behind the lines of a cell, up to `height`. -/
def alignLines (width height : Nat) (bottom : Bool) (style : Style) (lines : List Line) :
    List Line :=
  let blanks := List.replicate (height - lines.length) [Segment.blank width style]
  if bottom then blanks ++ lines else lines ++ blanks

/-- Joins the lines of neighbouring cells with a blank between them. -/
def joinCells : List (List Line) → List Line
  | [] => []
  | [lines] => lines
  | lines :: rest =>
    List.zipWith (fun a b => a ++ Segment.plain [' '] :: b) lines (joinCells rest)

/-- The lines of a row. A header stands at the bottom of its row and in bold type. -/
def rowLines (header : Bool) (widths : List Nat) (columns : List Column) (cells : List Cell) :
    Except CellFault (List Line) := do
  let style := if header then Style.bold else .plain
  let parts ← (widths.zip (columns.zip cells)).mapM fun p => do
    .ok (p.1, ← cellLines p.1 p.2.1 style p.2.2)
  let height := parts.foldl (fun n p => max n p.2.length) 0
  let filled := parts.map fun p =>
    if height = 0 then [[Segment.blank p.1 .plain]] else alignLines p.1 height header style p.2
  let edge := Segment.plain [' ']
  .ok ((joinCells filled).map fun line => edge :: line ++ [edge])

/-- The rule under the header leaves the outer edges blank. -/
def rule (widths : List Nat) : Line :=
  let length := widths.sum + (widths.length - 1)
  [Segment.plain (' ' :: List.replicate length '─' ++ [' '])]

/-- The lines of a table in a terminal of `width` cells. -/
def lines (width : Nat) (t : Table) : Except CellFault (List Line) := do
  let headers := t.columns.map fun c => paragraphs c.header .plain
  let edges := t.columns.length + 1
  let column (i : Nat) : List Cell := (headers :: t.rows).map fun row => (row[i]?).getD []
  let widths :=
    columnWidths (width - edges) ((List.range t.columns.length).map column)
  let total := widths.sum + edges
  let blank : Line := [Segment.blank total .plain]
  let title ←
    if (shown t.title).isEmpty then .ok []
    else wrap total .center .fold (paragraphs t.title .plain)
  let head ← rowLines true widths t.columns headers
  let rows ← t.rows.mapM (rowLines false widths t.columns)
  .ok (title ++ [blank] ++ head ++ [rule widths] ++ rows.flatten ++ [blank])

end Table

end CredoAssistant.Terminal
