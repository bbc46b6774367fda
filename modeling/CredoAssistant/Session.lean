import CredoAssistant.Publisher

/-!
Sessions: a host at work, told step by step. Views and inspections go by names that the steps
choose; a name that is used again is bound anew.
-/
namespace CredoAssistant

/-- One step of a host. Documents are named by their path. -/
inductive Step
  | openView (name path : String)
  | closeView (name : String)
  | documentClosed (name : String)
  | listViews
  | openSettings
  | provide (path : String) (launch : Launch)
  | start (name path : String)
  | finish (name : String) (launch : Launch)
  | put (path : String) (diagnostics : List Value)
  | remove (path : String)
  | look (path : String)
  | setNotifier (reply : NotifierReply)
  | setSettingsFailure (failure : Option String)
  deriving Repr

/-- Why a step is cut short. -/
inductive StepFailure
  | interrupted (cause : Interruption)
  | rejected (rejection : Rejection)
  | nullCharacter
  | unknownName (name : String)
  deriving DecidableEq, Repr

/-- What a step answers. -/
inductive Answer
  | nothing
  | removed (b : Bool)
  | uris (us : List String)
  | published (ds : Option (List Diagnostic))
  | waiting
  | ended (ds : Option (List Diagnostic))
  | entry (ds : Option (List Diagnostic))
  deriving DecidableEq, Repr

/-- An inspection that was asked for: in flight, or with the outcome that it keeps. -/
inductive Progress
  | waiting (document : Document)
  | ended (outcome : Except Interruption (Option (List Diagnostic)))
  deriving Repr

/-- A publisher with its host, the named views, and the inspections asked for so far in their order,
the named ones by their position. -/
structure Session where
  publisher : Publisher
  host : Host
  views : Entries String View
  nextView : Nat
  runs : List Progress
  runNames : Entries String Nat
  deriving Repr

/-- What a step leaves behind. -/
structure Reply where
  answer : Except StepFailure Answer
  trace : Trace
  requests : List LaunchRequest
  deriving Repr

namespace Reply

def ok (a : Answer) : Reply := ⟨.ok a, .empty, []⟩

def failure (f : StepFailure) : Reply := ⟨.error f, .empty, []⟩

end Reply

namespace Session

/-- A host with nothing open, stored or in flight. -/
def ofHost (host : Host) : Session := ⟨.empty, host, [], 0, [], []⟩

/-- Passes on an outcome, with the causes of interruption. -/
def answerOf {α : Type} (f : α → Answer) : Except Interruption α → Except StepFailure Answer
  | .ok a => .ok (f a)
  | .error i => .error (.interrupted i)

/-- Reads diagnostics up to the first that does not fit. -/
def readDiagnostics : List Value → Except Rejection (List Diagnostic)
  | [] => .ok []
  | v :: rest => do
    let d ← Diagnostic.ofValue v
    let ds ← readDiagnostics rest
    .ok (d :: ds)

/-- Asks for the diagnostics of a document and lets the launch end at once. -/
def provide (setup : Setup) (s : Session) (d : Document) (launch : Launch) : Session × Reply :=
  match Publisher.request setup s.publisher d with
  | (.busy, trace, p) => ({ s with publisher := p }, ⟨.ok (.published none), trace, []⟩)
  | (.interrupted i, trace, p) =>
    ({ s with publisher := p }, ⟨.error (.interrupted i), trace, []⟩)
  | (.started request, trace, p) =>
    let (outcome, more, p) := Publisher.finish setup s.host p d launch
    ({ s with publisher := p }, ⟨answerOf .published outcome, trace ++ more, [request]⟩)

/-- Keeps an inspection that was asked for under a name. -/
def keepRun (s : Session) (name : String) (p : Publisher) (progress : Progress) : Session :=
  { s with
    publisher := p
    runs := s.runs ++ [progress]
    runNames := Entries.set name s.runs.length s.runNames }

/-- Asks for the diagnostics of a document under a name. -/
def startRun (setup : Setup) (s : Session) (name : String) (d : Document) : Session × Reply :=
  match Publisher.request setup s.publisher d with
  | (.busy, trace, p) => (s.keepRun name p (.ended (.ok none)), ⟨.ok (.ended none), trace, []⟩)
  | (.interrupted i, trace, p) =>
    (s.keepRun name p (.ended (.error i)), ⟨.error (.interrupted i), trace, []⟩)
  | (.started request, trace, p) =>
    (s.keepRun name p (.waiting d), ⟨.ok .waiting, trace, [request]⟩)

/-- The inspection of a name, with its position. -/
def run? (s : Session) (name : String) : Option (Nat × Progress) :=
  (Entries.get? name s.runNames).bind fun i => s.runs[i]?.map fun progress => (i, progress)

/-- Lets the launch of a named inspection end. One that has ended keeps its outcome. -/
def finishRun (setup : Setup) (s : Session) (name : String) (launch : Launch) : Session × Reply :=
  match s.run? name with
  | none => (s, .failure (.unknownName name))
  | some (_, .ended outcome) => (s, ⟨answerOf .ended outcome, .empty, []⟩)
  | some (i, .waiting d) =>
    let (outcome, trace, p) := Publisher.finish setup s.host s.publisher d launch
    ({ s with publisher := p, runs := s.runs.set i (.ended outcome) },
      ⟨answerOf .ended outcome, trace, []⟩)

/-- Does something with the document of a path, if it has one. -/
def withDocument (setup : Setup) (s : Session) (path : String)
    (f : Document → Session × Reply) : Session × Reply :=
  match Document.ofPath? Document.systemLinks setup.root path with
  | none => (s, .failure .nullCharacter)
  | some d => f d

/-- Does something with a named view. -/
def withView (s : Session) (name : String) (f : View → Session × Reply) : Session × Reply :=
  match Entries.get? name s.views with
  | none => (s, .failure (.unknownName name))
  | some v => f v

def setStore (s : Session) (store : Store) : Session :=
  { s with publisher := { s.publisher with store } }

/-- Takes one step. -/
def step (setup : Setup) (s : Session) : Step → Session × Reply
  | .openView name path =>
    s.withDocument setup path fun d =>
      let v : View := ⟨s.nextView, d⟩
      ({ s with
          publisher := s.publisher.openView v
          views := Entries.set name v s.views
          nextView := s.nextView + 1 }, .ok .nothing)
  | .closeView name =>
    s.withView name fun v => ({ s with publisher := s.publisher.closeView v }, .ok .nothing)
  | .documentClosed name =>
    s.withView name fun v =>
      let (removed, p) := s.publisher.documentClosed v
      ({ s with publisher := p }, .ok (.removed removed))
  | .listViews => (s, .ok (.uris (s.publisher.views.map fun v => v.document.uri)))
  | .openSettings =>
    let (outcome, p) := s.publisher.openSettings s.host
    ({ s with publisher := p }, ⟨answerOf (fun _ => .nothing) outcome, .empty, []⟩)
  | .provide path launch => s.withDocument setup path fun d => s.provide setup d launch
  | .start name path => s.withDocument setup path fun d => s.startRun setup name d
  | .finish name launch => s.finishRun setup name launch
  | .put path values =>
    s.withDocument setup path fun d =>
      match readDiagnostics values with
      | .error r => (s, .failure (.rejected r))
      | .ok ds => (s.setStore (Entries.set d.uri ds s.publisher.store), .ok .nothing)
  | .remove path =>
    s.withDocument setup path fun d =>
      (s.setStore (Entries.erase d.uri s.publisher.store), .ok .nothing)
  | .look path =>
    s.withDocument setup path fun d => (s, .ok (.entry (Entries.get? d.uri s.publisher.store)))
  | .setNotifier reply => ({ s with host := { s.host with notifier := reply } }, .ok .nothing)
  | .setSettingsFailure failure =>
    ({ s with host := { s.host with settingsFailure := failure } }, .ok .nothing)

/-- Takes the steps in turn: the reply to each, and the state it leads to. -/
def run (setup : Setup) (s : Session) : List Step → List (Reply × Session)
  | [] => []
  | a :: rest =>
    let (next, reply) := s.step setup a
    (reply, next) :: run setup next rest

/-- The uris in flight, in order of their text. -/
def inFlight (s : Session) : List String :=
  s.publisher.inFlight.mergeSort fun a b => decide (a ≤ b)

end Session

end CredoAssistant
