import CredoAssistant.Diagnostic.Mapping
import CredoAssistant.Document
import CredoAssistant.Inspection

/-!
Publishing: keeps the diagnostics of each document in step with its inspections. At most one
inspection runs for a document at a time; each one that ends replaces the diagnostics of its
document, and one whose document was closed meanwhile leaves them alone.
-/
namespace CredoAssistant

/-- The diagnostics by the uri of their document. -/
abbrev Store := Entries String (List Diagnostic)

/-- A view onto a document. Views of the same document differ in their number. -/
structure View where
  number : Nat
  document : Document
  deriving DecidableEq, Repr

/-- What inspections are made with. -/
structure Setup where
  settings : Settings
  options : ProcessOptions
  root : Path
  stack : Stack
  deriving Repr

/-- The state of a host: stored diagnostics, open views, the uris with an inspection in flight,
those whose document was closed during it, and how often the settings were opened. -/
structure Publisher where
  store : Store
  views : List View
  inFlight : List String
  closedInFlight : List String
  settingsOpened : Nat
  deriving DecidableEq, Repr

/-- What a request for diagnostics leads to at once. -/
inductive Admission
  | busy
  | interrupted (cause : Interruption)
  | started (request : LaunchRequest)
  deriving DecidableEq, Repr

namespace Publisher

def empty : Publisher := ⟨[], [], [], [], 0⟩

instance : Inhabited Publisher := ⟨empty⟩

/-- Opens a view. -/
def openView (p : Publisher) (v : View) : Publisher := { p with views := p.views ++ [v] }

/-- Forgets a view; an unknown one is ignored. -/
def closeView (p : Publisher) (v : View) : Publisher :=
  { p with views := p.views.filter fun w => w.number != v.number }

/-- Whether a view other than `v` shows the same document. -/
def isShownElsewhere (p : Publisher) (v : View) : Bool :=
  p.views.any fun w => w.number != v.number && w.document.uri == v.document.uri

/-- Drops the diagnostics of a closed view, unless another view shows its document, and says whether
it did. An inspection in flight is flagged. -/
def documentClosed (p : Publisher) (v : View) : Bool × Publisher :=
  if p.isShownElsewhere v then (false, p)
  else
    let uri := v.document.uri
    let flagged := if uri ∈ p.inFlight then p.closedInFlight.insert uri else p.closedInFlight
    (true, { p with store := Entries.erase uri p.store, closedInFlight := flagged })

/-- Enters an inspection in flight. -/
def enter (p : Publisher) (uri : String) : Publisher :=
  { p with inFlight := p.inFlight.insert uri }

/-- Forgets the inspection of a document, and that the document was closed during it. -/
def release (p : Publisher) (uri : String) : Publisher :=
  { p with
    inFlight := p.inFlight.filter fun u => u ≠ uri
    closedInFlight := p.closedInFlight.filter fun u => u ≠ uri }

/-- Asks for the diagnostics of a document. A document in flight is not inspected again. -/
def request (setup : Setup) (p : Publisher) (d : Document) : Admission × Trace × Publisher :=
  if d.uri ∈ p.inFlight then
    (.busy, .log .debug .publisher s!"Credo analysis already running for {d.path}; skipping", p)
  else
    let p := p.enter d.uri
    let trace := Inspection.startRecord (setup.settings.commandFor d.path)
    match Inspection.request? setup.settings setup.options setup.root d.path with
    | none => (.interrupted .negativeTimeout, trace, p.release d.uri)
    | some request => (.started request, trace, p)

/-- Drops the diagnostics of a failed inspection, if the settings say so. -/
def discard (setup : Setup) (store : Store) (uri : String) : Store :=
  if setup.settings.clearOnFailure then Entries.erase uri store else store

/-- Publishes the result of an inspection of a document that is still open. -/
def publish (setup : Setup) (store : Store) (d : Document) (result : Inspection) :
    Option (List Diagnostic) × Trace × Store :=
  if result.isOk then
    match Diagnostic.ofIssues result.issues with
    | .error e =>
      (none, .log .error .publisher s!"Rejected Credo report for {d.path}: {e.message}",
        discard setup store d.uri)
    | .ok ds =>
      let heading := s!"Published {ds.length} Credo diagnostics for {d.path}:"
      (some ds, .log .info .publisher ((Tally.ofDiagnostics ds).render heading),
        Entries.set d.uri ds store)
  else (none, .empty, discard setup store d.uri)

/-- Settles an inspection that gave a result; `closed` says whether its document was closed during
it. -/
def settle (setup : Setup) (store : Store) (d : Document) (closed : Bool) (result : Inspection) :
    Option (List Diagnostic) × Trace × Store :=
  if closed then
    let record := s!"{d.path} was closed during the Credo run; discarding results"
    (none, .log .debug .publisher record, store)
  else publish setup store d result

/-- Ends an inspection in flight. However it ends, its document is free for the next one. -/
def finish (setup : Setup) (host : Host) (p : Publisher) (d : Document) (launch : Launch) :
    Except Interruption (Option (List Diagnostic)) × Trace × Publisher :=
  let (result, trace) :=
    Inspection.conclude setup.stack host (setup.settings.commandFor d.path) launch
  let p := { p with settingsOpened := p.settingsOpened + trace.settingsOpened }
  match result with
  | .error i => (.error i, trace, p.release d.uri)
  | .ok result =>
    let closed := p.closedInFlight.contains d.uri
    let (ds, more, store) := settle setup p.store d closed result
    (.ok ds, trace ++ more, { p with store }.release d.uri)

/-- Opens the settings on request. -/
def openSettings (host : Host) (p : Publisher) : Except Interruption Unit × Publisher :=
  let (result, trace) := host.openSettings
  (result, { p with settingsOpened := p.settingsOpened + trace.settingsOpened })

end Publisher

end CredoAssistant
