import CredoAssistant.Settings.Source

/-!
Layers of settings. Later layers win member by member; the provenance of a member is the name of the
layer that set it last.
-/
namespace CredoAssistant

/-- A named fragment. -/
structure Layer where
  name : String
  members : Members
  deriving Repr

/-- Settings and, for each member that some layer holds, the name of the last such layer. -/
structure Loaded where
  settings : Settings
  provenance : Entries String String
  deriving DecidableEq, Repr

namespace Layer

/-- All members, later layers over earlier ones. -/
def merge (layers : List Layer) : Members :=
  layers.foldl (fun acc l => Entries.update acc l.members) []

/-- The name of the last layer with each member. -/
def provenance (layers : List Layer) : Entries String String :=
  layers.foldl (fun acc l => Entries.update acc (l.members.map fun m => (m.1, l.name))) []

/-- The last layer: what the caller sets, absent values left out. -/
def overrides (ms : Members) : Layer :=
  ⟨"overrides", ms.filter fun m => !m.2.isNull⟩

/-- The settings of the layers below the overrides. -/
def load (layers : List Layer) (explicit : Members) : Except LoadFailure Loaded :=
  if layers.isEmpty then .error .noSources
  else
    let all := layers ++ [overrides explicit]
    match Settings.ofMembers (merge all) with
    | .ok settings => .ok ⟨settings, provenance all⟩
    | .error rejection => .error (.rejected rejection)

end Layer

namespace Source

/-- The layers of the sources in order, unless one of them fails. -/
def layers (stack : Stack) (files : FileTree) (env : Environment) :
    List Source → Except LoadFailure (List Layer)
  | [] => .ok []
  | s :: rest =>
    match s.load stack files env with
    | .error f => .error f
    | .ok ms =>
      match layers stack files env rest with
      | .error f => .error f
      | .ok ls => .ok (⟨s.name, ms⟩ :: ls)

end Source

/-- The settings of the project at `root`. -/
def Settings.load (stack : Stack) (files : FileTree) (env : Environment) (root : Path)
    (explicit : Members) : Except LoadFailure Loaded :=
  match Source.layers stack files env (Source.standard root) with
  | .error f => .error f
  | .ok ls => Layer.load ls explicit

end CredoAssistant
