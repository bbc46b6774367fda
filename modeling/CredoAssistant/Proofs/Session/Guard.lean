import CredoAssistant.Proofs.Session.Moves
import CredoAssistant.Proofs.Settings.TimeLimit
import Mathlib.Data.List.Nodup

/-!
The guard of inspections in flight. In every reachable session the uris in flight are those of the
inspections that were accepted and have not ended, each of one inspection only, and no uri outside
them is flagged. However an inspection ends, its document is free afterwards.
-/
namespace CredoAssistant.Session

variable {setup : Setup} {s s' : Session}

/-- The uris in flight and the flagged ones among them, as the inspections under way have it. -/
structure Guarded (s : Session) : Prop where
  inFlight_iff : ∀ uri, uri ∈ s.publisher.inFlight ↔ uri ∈ s.pending.map Document.uri
  one_each : (s.pending.map Document.uri).Nodup
  flagged : ∀ uri ∈ s.publisher.closedInFlight, uri ∈ s.publisher.inFlight

theorem guarded_ofHost (host : Host) : Guarded (ofHost host) :=
  ⟨fun _ => Iff.rfl, List.nodup_nil, fun _ flagged => flagged⟩

theorem pending_keepRun_ended (s : Session) (name : String) (p : Publisher)
    (outcome : Except Interruption (Option (List Diagnostic))) :
    (s.keepRun name p (.ended outcome)).pending = s.pending := by
  simp [pending, keepRun, Progress.document?]

theorem pending_keepRun_waiting (s : Session) (name : String) (p : Publisher) (d : Document) :
    (s.keepRun name p (.waiting d)).pending = s.pending ++ [d] := by
  simp [pending, keepRun, Progress.document?]

/-- Ending an inspection takes its document, and no other, out of those under way. -/
theorem filterMap_set_ended {runs : List Progress} {i : Nat} {d : Document}
    (running : runs[i]? = some (.waiting d))
    (outcome : Except Interruption (Option (List Diagnostic))) :
    ∃ before after, runs.filterMap Progress.document? = before ++ d :: after ∧
      (runs.set i (.ended outcome)).filterMap Progress.document? = before ++ after := by
  induction runs generalizing i with
  | nil => cases running
  | cons r rest ih =>
    cases i with
    | zero =>
      cases running
      exact ⟨[], rest.filterMap Progress.document?, rfl, rfl⟩
    | succ i =>
      obtain ⟨before, after, whole, ended⟩ := ih running
      cases r with
      | waiting e =>
        refine ⟨e :: before, after, ?_, ?_⟩
        · simp [Progress.document?, whole]
        · simp [Progress.document?, ended]
      | ended o =>
        refine ⟨before, after, ?_, ?_⟩
        · exact (List.filterMap_cons_none rfl).trans whole
        · exact (List.filterMap_cons_none rfl).trans ended

theorem runs_of_run? {name : String} {i : Nat} {progress : Progress}
    (named : s.run? name = some (i, progress)) : s.runs[i]? = some progress := by
  simp only [run?, Option.bind_eq_some_iff, Option.map_eq_some_iff] at named
  obtain ⟨j, _, r, found, same⟩ := named
  cases same
  exact found

/-- An inspection under way has its uri in flight. -/
theorem Guarded.inFlight_of_waiting (guarded : Guarded s) {i : Nat} {d : Document}
    (running : s.runs[i]? = some (.waiting d)) : d.uri ∈ s.publisher.inFlight := by
  refine (guarded.inFlight_iff d.uri).mpr (List.mem_map_of_mem ?_)
  exact List.mem_filterMap.mpr ⟨_, List.mem_of_getElem? running, rfl⟩

/-- Releasing a document that is not in flight changes nothing that the guard can see. -/
theorem Guarded.release (guarded : Guarded s) {uri : String} (free : uri ∉ s.publisher.inFlight)
    (other : String) :
    (other ∈ (s.publisher.release uri).inFlight ↔ other ∈ s.publisher.inFlight) ∧
      (other ∈ (s.publisher.release uri).closedInFlight ↔ other ∈ s.publisher.closedInFlight) := by
  rw [Publisher.mem_inFlight_release, Publisher.mem_closedInFlight_release]
  constructor
  · refine and_iff_left_of_imp fun running same => ?_
    exact free (same ▸ running)
  · refine and_iff_left_of_imp fun flagged same => ?_
    exact free (same ▸ guarded.flagged other flagged)

theorem Guarded.move (guarded : Guarded s) {a : Step} {c : Option String}
    (move : Move setup s a c s') : Guarded s' := by
  cases move with
  | still | opened | forgotten | stored | erased =>
    exact ⟨guarded.inFlight_iff, guarded.one_each, guarded.flagged⟩
  | closed known last =>
    obtain ⟨_, _, _, inFlight, flagged⟩ := Publisher.documentClosed_last last
    refine ⟨fun uri => ?_, guarded.one_each, fun uri => ?_⟩
    · exact (iff_of_eq (congrArg (uri ∈ ·) inFlight)).trans (guarded.inFlight_iff uri)
    · intro closed
      rw [inFlight]
      rcases (flagged uri).mp closed with before | ⟨_, running⟩
      · exact guarded.flagged uri before
      · exact running
  | refused =>
    refine ⟨?_, ?_, guarded.flagged⟩ <;> rw [pending_keepRun_ended]
    · exact guarded.inFlight_iff
    · exact guarded.one_each
  | @aborted name path d i free =>
    have same := guarded.release free
    refine ⟨fun uri => ?_, ?_, fun uri closed => ?_⟩
    · rw [pending_keepRun_ended]
      exact (same uri).1.trans (guarded.inFlight_iff uri)
    · rw [pending_keepRun_ended]
      exact guarded.one_each
    · exact (same uri).1.mpr (guarded.flagged uri ((same uri).2.mp closed))
  | @abortedAtOnce path launch d free =>
    have same := guarded.release free
    refine ⟨fun uri => (same uri).1.trans (guarded.inFlight_iff uri), guarded.one_each, ?_⟩
    exact fun uri closed => (same uri).1.mpr (guarded.flagged uri ((same uri).2.mp closed))
  | @started name path d found free =>
    refine ⟨fun uri => ?_, ?_, fun uri closed => ?_⟩
    · rw [pending_keepRun_waiting, List.map_append, List.mem_append, ← guarded.inFlight_iff uri]
      refine Publisher.mem_inFlight_enter.trans (or_comm.trans (or_congr_right ?_))
      exact List.mem_singleton.symm
    · rw [pending_keepRun_waiting, List.map_append]
      refine List.nodup_append.mpr ⟨guarded.one_each, List.nodup_singleton _, ?_⟩
      rintro uri running other only rfl
      exact free (List.mem_singleton.mp only ▸ (guarded.inFlight_iff uri).mpr running)
    · exact Publisher.mem_inFlight_enter.mpr (.inr (guarded.flagged uri closed))
  | @provided path launch d found free =>
    obtain ⟨_, inFlight, flagged⟩ :=
      Publisher.finish_frame setup s.host (s.publisher.enter d.uri) d launch
    rw [Publisher.release_enter] at inFlight flagged
    have same := guarded.release free
    refine ⟨fun uri => ?_, guarded.one_each, fun uri closed => ?_⟩
    · rw [inFlight]
      exact (same uri).1.trans (guarded.inFlight_iff uri)
    · rw [inFlight]
      rw [flagged] at closed
      exact (same uri).1.mpr (guarded.flagged uri ((same uri).2.mp closed))
  | @finished name launch i d running =>
    obtain ⟨_, inFlight, flagged⟩ := Publisher.finish_frame setup s.host s.publisher d launch
    obtain ⟨before, after, whole, ended⟩ := filterMap_set_ended (runs_of_run? running)
      (Publisher.finish setup s.host s.publisher d launch).1
    have unique := guarded.one_each
    have exactly := guarded.inFlight_iff
    simp only [pending, whole, List.map_append, List.map_cons] at unique exactly
    -- Its uri stands once among those under way, so the release takes no other one along.
    have apart := List.nodup_cons.mp (List.nodup_middle.mp unique)
    refine ⟨fun uri => ?_, ?_, fun uri closed => ?_⟩
    · simp only [pending, ended, List.map_append]
      rw [inFlight, Publisher.mem_inFlight_release, exactly]
      simp only [List.mem_append, List.mem_cons]
      constructor
      · rintro ⟨left | same | right, other⟩
        · exact .inl left
        · exact absurd same other
        · exact .inr right
      · intro member
        refine ⟨member.imp_right .inr, ?_⟩
        rintro rfl
        exact apart.1 (List.mem_append.mpr member)
    · simp only [pending, ended, List.map_append]
      exact apart.2
    · rw [flagged, Publisher.mem_closedInFlight_release] at closed
      rw [inFlight, Publisher.mem_inFlight_release]
      exact ⟨guarded.flagged uri closed.1, closed.2⟩

theorem guarded_after (setup : Setup) (host : Host) (steps : List Step) :
    Guarded (after setup (ofHost host) steps) :=
  after_induction Guarded (fun _ _ _ _ guarded move => guarded.move move) (guarded_ofHost host)
    steps

/-- A request is refused: it has its answer at once, asks for no launch, and leaves the publisher
with its store and its sets as it was. -/
def Refused (s : Session) (answer : Answer) (next : Session × Reply) : Prop :=
  next.2.answer = .ok answer ∧ next.2.requests = [] ∧ next.1.publisher = s.publisher

/-- A request for an inspection of `path` is accepted: it asks for exactly one launch. -/
def Accepted (setup : Setup) (path : String) (next : Session × Reply) : Prop :=
  ∃ request : LaunchRequest,
    next.2.requests = [request] ∧ request.args = setup.settings.commandFor path

/-- A uri is neither in flight nor flagged. -/
def Idle (s : Session) (uri : String) : Prop :=
  uri ∉ s.publisher.inFlight ∧ uri ∉ s.publisher.closedInFlight

/-- How the guard treats the requests of a session and the ends of its inspections. -/
structure Guards (setup : Setup) (s : Session) : Prop where
  inFlight_iff : ∀ uri, uri ∈ s.publisher.inFlight ↔ ∃ d ∈ s.pending, d.uri = uri
  one_each : (s.pending.map Document.uri).Nodup
  flagged : ∀ uri ∈ s.publisher.closedInFlight, uri ∈ s.publisher.inFlight
  busy : ∀ path d, Document.ofPath? Document.systemLinks setup.root path = some d →
    d.uri ∈ s.publisher.inFlight →
      (∀ name, Refused s (.ended none) (s.step setup (.start name path))) ∧
      ∀ launch, Refused s (.published none) (s.step setup (.provide path launch))
  free : ∀ path d, Document.ofPath? Document.systemLinks setup.root path = some d →
    d.uri ∉ s.publisher.inFlight →
      (∀ name, Accepted setup path (s.step setup (.start name path)) ∧
        (s.step setup (.start name path)).1.pending = s.pending ++ [d] ∧
        d.uri ∉ (s.step setup (.start name path)).1.publisher.closedInFlight) ∧
      ∀ launch, Accepted setup path (s.step setup (.provide path launch)) ∧
        (s.step setup (.provide path launch)).1.pending = s.pending ∧
        Idle (s.step setup (.provide path launch)).1 d.uri ∧
        ∀ ds, launch.Reports setup.stack ds →
          (s.step setup (.provide path launch)).2.answer = .ok (.published (some ds))
  ended : ∀ name launch i d, s.run? name = some (i, .waiting d) →
    Idle (s.step setup (.finish name launch)).1 d.uri ∧
      (s.step setup (.finish name launch)).2.requests = [] ∧
      (∃ before after, s.pending = before ++ d :: after ∧
        (s.step setup (.finish name launch)).1.pending = before ++ after) ∧
      ∀ uri, uri ≠ d.uri →
        (uri ∈ (s.step setup (.finish name launch)).1.publisher.closedInFlight ↔
          uri ∈ s.publisher.closedInFlight)
  idle : s.pending = [] → s.publisher.inFlight = [] ∧ s.publisher.closedInFlight = []

variable {path : String} {d : Document}

theorem refused_start (found : Document.ofPath? Document.systemLinks setup.root path = some d)
    (busy : d.uri ∈ s.publisher.inFlight) (name : String) :
    Refused s (.ended none) (s.step setup (.start name path)) := by
  simp only [step, withDocument, found, startRun, Publisher.request, busy, if_true]
  exact ⟨rfl, rfl, rfl⟩

theorem refused_provide (found : Document.ofPath? Document.systemLinks setup.root path = some d)
    (busy : d.uri ∈ s.publisher.inFlight) (launch : Launch) :
    Refused s (.published none) (s.step setup (.provide path launch)) := by
  simp only [step, withDocument, found, provide, Publisher.request, busy, if_true]
  exact ⟨rfl, rfl, rfl⟩

/-- A request for a document that is not in flight puts it under way, unflagged. -/
theorem accepted_start (timely : setup.IsTimely) (guarded : Guarded s)
    (found : Document.ofPath? Document.systemLinks setup.root path = some d)
    (free : d.uri ∉ s.publisher.inFlight) (name : String) :
    Accepted setup path (s.step setup (.start name path)) ∧
      (s.step setup (.start name path)).1.pending = s.pending ++ [d] ∧
      d.uri ∉ (s.step setup (.start name path)).1.publisher.closedInFlight := by
  obtain ⟨q, trace, started, args⟩ := Publisher.request_free timely free
  simp only [step, withDocument, found, startRun, started]
  refine ⟨⟨q, rfl, ?_⟩, pending_keepRun_waiting s name _ d, ?_⟩
  · rw [args, Document.path_of_ofPath? found]
  · exact fun flagged => free (guarded.flagged d.uri flagged)

/-- An inspection made at once leaves its document idle, and publishes what its launch reports. -/
theorem accepted_provide (timely : setup.IsTimely) (guarded : Guarded s)
    (found : Document.ofPath? Document.systemLinks setup.root path = some d)
    (free : d.uri ∉ s.publisher.inFlight) (launch : Launch) :
    Accepted setup path (s.step setup (.provide path launch)) ∧
      (s.step setup (.provide path launch)).1.pending = s.pending ∧
      Idle (s.step setup (.provide path launch)).1 d.uri ∧
      ∀ ds, launch.Reports setup.stack ds →
        (s.step setup (.provide path launch)).2.answer = .ok (.published (some ds)) := by
  obtain ⟨q, trace, started, args⟩ := Publisher.request_free timely free
  obtain ⟨_, inFlight, flagged⟩ :=
    Publisher.finish_frame setup s.host (s.publisher.enter d.uri) d launch
  simp only [step, withDocument, found, provide, started]
  refine ⟨⟨q, rfl, ?_⟩, rfl, ⟨?_, ?_⟩, fun ds reported => ?_⟩
  · rw [args, Document.path_of_ofPath? found]
  · show d.uri ∉ (Publisher.finish setup s.host (s.publisher.enter d.uri) d launch).2.2.inFlight
    rw [inFlight, Publisher.mem_inFlight_release]
    exact fun running => running.2 rfl
  · show d.uri ∉
      (Publisher.finish setup s.host (s.publisher.enter d.uri) d launch).2.2.closedInFlight
    rw [flagged, Publisher.mem_closedInFlight_release]
    exact fun closed => closed.2 rfl
  · obtain ⟨outcome, ended⟩ :=
      Publisher.finish_of_reports setup s.host (s.publisher.enter d.uri) d reported
    have unflagged : d.uri ∉ (s.publisher.enter d.uri).closedInFlight :=
      fun closed => free (guarded.flagged d.uri closed)
    have published := (Publisher.finish_reported unflagged ended reported).1
    rw [ended, published]
    rfl

/-- However the launch of an inspection ends, its document is idle and the others are as before. -/
theorem idle_finish {name : String} {i : Nat} (running : s.run? name = some (i, .waiting d))
    (launch : Launch) :
    Idle (s.step setup (.finish name launch)).1 d.uri ∧
      (s.step setup (.finish name launch)).2.requests = [] ∧
      (∃ before after, s.pending = before ++ d :: after ∧
        (s.step setup (.finish name launch)).1.pending = before ++ after) ∧
      ∀ uri, uri ≠ d.uri →
        (uri ∈ (s.step setup (.finish name launch)).1.publisher.closedInFlight ↔
          uri ∈ s.publisher.closedInFlight) := by
  obtain ⟨_, inFlight, flagged⟩ := Publisher.finish_frame setup s.host s.publisher d launch
  simp only [step, finishRun, running, Idle, inFlight, flagged, Publisher.mem_inFlight_release,
    Publisher.mem_closedInFlight_release]
  refine ⟨⟨fun h => h.2 rfl, fun h => h.2 rfl⟩, trivial, ?_, fun uri other => ?_⟩
  · exact filterMap_set_ended (runs_of_run? running) _
  · exact and_iff_left other

/-- The guard holds in every session that steps lead to. -/
theorem guards_after (setup : Setup) (timely : setup.IsTimely) (host : Host) (steps : List Step) :
    Guards setup (after setup (ofHost host) steps) := by
  have guarded := guarded_after setup host steps
  generalize after setup (ofHost host) steps = s at guarded ⊢
  refine ⟨fun uri => ?_, guarded.one_each, guarded.flagged, ?_, ?_, ?_, fun none => ?_⟩
  · exact (guarded.inFlight_iff uri).trans List.mem_map
  · exact fun path d found busy => ⟨refused_start found busy, refused_provide found busy⟩
  · exact fun path d found free =>
      ⟨accepted_start timely guarded found free, accepted_provide timely guarded found free⟩
  · exact fun name launch i d running => idle_finish running launch
  · have free : s.publisher.inFlight = [] := by
      refine List.eq_nil_iff_forall_not_mem.mpr fun uri running => ?_
      simpa [none] using (guarded.inFlight_iff uri).mp running
    refine ⟨free, List.eq_nil_iff_forall_not_mem.mpr fun uri closed => ?_⟩
    simpa [free] using guarded.flagged uri closed

theorem guards_reopened :
    (Setup.ofRoot (Path.ofText "/proj")).IsTimely ∧
      Guards (.ofRoot (Path.ofText "/proj")) (after (.ofRoot (Path.ofText "/proj"))
        (ofHost ⟨.chose none, none⟩)
        [.openView "v" "lib/a.ex", .start "r" "lib/a.ex", .closeView "v", .documentClosed "v",
          .openView "w" "lib/a.ex", .provide "lib/a.ex" .nullCharacter]) :=
  ⟨Setup.isTimely_ofRoot _, guards_after _ (Setup.isTimely_ofRoot _) _ _⟩

end CredoAssistant.Session
