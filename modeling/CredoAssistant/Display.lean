import CredoAssistant.Diagnostic.Basic
import CredoAssistant.Json.Writer
import CredoAssistant.Log
import CredoAssistant.Notification
import CredoAssistant.Tally
import CredoAssistant.Terminal.Table

/-!
What users see of diagnostics, notifications and outcomes: JSON for other programs, tables, panels
and status lines for people.
-/
namespace CredoAssistant

/-- A terminal: its width in cells, and whether it shows colours. -/
structure Screen where
  width : Nat
  color : Bool
  deriving DecidableEq, Repr

namespace Screen

open Terminal

/-- Lines as they are written to the screen. -/
def write (s : Screen) (lines : List Line) : Except CellFault String :=
  writeLines s.width s.color lines

/-- A text in one style. -/
def print (s : Screen) (text : String) (style : Style) : Except CellFault String := do
  s.write (← wrap s.width .natural .fold (paragraphs text style))

end Screen

namespace Severity

open Terminal

def style : Severity → Style
  | error => .boldRed
  | warning => .yellow
  | hint => .cyan
  | info => .dim

end Severity

namespace Diagnostic

open Terminal

/-- The payloads of some diagnostics as a JSON text. -/
def renderJson (ds : List Diagnostic) : String :=
  Json.render .indented (.list (ds.map toPayload))

/-- Whether `a` stands before `b` or beside it: by line, then by column, a missing one being
zero. -/
def comesBefore (a b : Diagnostic) : Bool :=
  a.line < b.line || (a.line == b.line && a.column.getD 0 ≤ b.column.getD 0)

/-- The diagnostics in the order of their places; those at the same place keep their order. -/
def inOrder (ds : List Diagnostic) : List Diagnostic := ds.mergeSort comesBefore

/-- The columns of the table of diagnostics. -/
def columns : List Column :=
  [⟨"Line", .right, .ellipsis⟩, ⟨"Col", .right, .ellipsis⟩, ⟨"Severity", .left, .ellipsis⟩,
    ⟨"Code", .left, .ellipsis⟩, ⟨"Message", .left, .fold⟩]

/-- The cells of a diagnostic. -/
def row (d : Diagnostic) : List Cell :=
  [paragraphs (Decimal.text d.line) .plain,
    paragraphs ((d.column.map Decimal.text).getD "") .plain,
    paragraphs d.severity.name d.severity.style, paragraphs d.code .plain,
    paragraphs d.message .plain]

/-- The table of some diagnostics. -/
def table (title : String) (ds : List Diagnostic) : Table :=
  ⟨title, columns, (inOrder ds).map row⟩

/-- The severities that occur among some diagnostics, with their counts. -/
def occurring (ds : List Diagnostic) : Entries String Int :=
  (Tally.ofDiagnostics ds).counts.filter fun e => e.2 != 0

/-- One line with the number of diagnostics and the counts of their severities. -/
def tallyLine (ds : List Diagnostic) : String :=
  let counts := (occurring ds).map fun e => Decimal.text e.2 ++ " " ++ e.1
  Decimal.text ds.length ++ " issue(s): " ++ ", ".intercalate counts

/-- Some diagnostics for people: a table and a tally, or a sentence when there are none. -/
def renderPretty (s : Screen) (title : String) (ds : List Diagnostic) :
    Except CellFault String := do
  if ds.isEmpty then s.print ("No Credo issues in " ++ title) .green
  else
    let shown ← s.write (← (table title ds).lines s.width)
    .ok (shown ++ (← s.print (tallyLine ds) .plain))

end Diagnostic

namespace Notification

open Terminal

/-- The panel of a notification; its actions follow the body. -/
def panel (n : Notification) : Panel :=
  let actions :=
    if n.actions.isEmpty then []
    else
      -- The body ends in an empty line before the actions.
      paragraphs "" .plain ++ paragraphs (" / ".intercalate n.actions) .dim
  ⟨n.title, paragraphs n.body .plain ++ actions, .red⟩

/-- A notification on the screen. -/
def render (s : Screen) (n : Notification) : Except CellFault String := do
  s.write (← n.panel.lines s.width)

end Notification

/-- The kinds of status lines. -/
inductive Status
  | ok
  | warn
  | fail
  deriving DecidableEq, Repr

namespace Status

open Terminal

def symbol : Status → String
  | ok => "✅ "
  | warn => "⚠️ "
  | fail => "❌ "

def style : Status → Style
  | ok => .green
  | warn => .yellow
  | fail => .red

/-- A status line on the screen, with a symbol in front if emoji are wanted. -/
def render (s : Screen) (emoji : Bool) (k : Status) (message : String) :
    Except CellFault String :=
  s.print ((if emoji then k.symbol else "") ++ message) k.style

end Status

end CredoAssistant
