import CredoAssistant.Diagnostic.Basic
import CredoAssistant.Report.Issue

/-!
Tallies: how many items fall into each bucket, and the text that lists them.
-/
namespace CredoAssistant

/-- Counts by bucket in the order of the buckets, and the number of all items. -/
structure Tally where
  label : String
  total : Int
  counts : Entries String Int
  deriving DecidableEq, Repr

namespace Tally

/-- A heading and a line for each bucket. -/
def render (t : Tally) (heading : String) : String :=
  let rows := t.counts.map fun e => s!"{e.1}\t\t| {Decimal.text e.2}"
  "\n".intercalate (heading :: s!"{t.label}\t| total" :: rows)

/-- Adds one to a bucket; keys outside the buckets are not counted. -/
def bump (key : String) (counts : Entries String Int) : Entries String Int :=
  counts.map fun e => if e.1 = key then (e.1, e.2 + 1) else e

/-- Counts `keys` into the given buckets. -/
def count (buckets keys : List String) : Entries String Int :=
  keys.foldl (fun acc k => bump k acc) (buckets.map fun b => (b, 0))

/-- Issues by priority. -/
def ofIssues (issues : List Issue) : Tally :=
  { label := "priority"
    total := issues.length
    counts := count ["1", "2", "3", "4"] (issues.map fun i => Decimal.text i.priority) }

/-- Diagnostics by severity. -/
def ofDiagnostics (ds : List Diagnostic) : Tally :=
  { label := "severity"
    total := ds.length
    counts := count (Severity.all.map Severity.name) (ds.map fun d => d.severity.name) }

/-- The count of a bucket. -/
def get (t : Tally) (bucket : String) : Int := (Entries.get? bucket t.counts).getD 0

/-- All buckets with their counts, as an object. -/
def toValue (t : Tally) (heading : String) : Value :=
  .object
    [("label", .text t.label), ("total", .int t.total),
     ("counts", .object (t.counts.map fun e => (e.1, .int e.2))),
     ("text", .text (t.render heading))]

end Tally

end CredoAssistant
