import CredoAssistant.Proofs.Entries.Replay
import CredoAssistant.Proofs.Session.Notices

/-!
The store as the replay of a session's writes. A host sets and removes diagnostics itself, a closed
document loses its own, and an inspection that ends publishes what it found, or drops what is out of
date when it failed. Nothing else touches the store, so these writes, in their order, tell which
documents it holds, with which diagnostics, and how they are listed.
-/
namespace CredoAssistant

open Entries (Write replay Chronicles)

namespace Publisher

variable {setup : Setup} {host : Host} {p : Publisher} {d : Document} {launch : Launch}

/-- What an inspection that comes to an end writes, by what it returns. One whose document was
closed meanwhile writes nothing. -/
def issued (setup : Setup) (p : Publisher) (d : Document) :
    Option (List Diagnostic) → List (Write String (List Diagnostic))
  | some ds => [.set d.uri ds]
  | none =>
    if d.uri ∉ p.closedInFlight ∧ setup.settings.clearOnFailure then [.erase d.uri] else []

theorem replay_issued_none (setup : Setup) (unflagged : d.uri ∉ p.closedInFlight) (store : Store) :
    replay store (p.issued setup d none) = discard setup store d.uri := by
  simp only [issued, discard, unflagged, not_false_eq_true, true_and]
  split <;> rfl

theorem finish_replays {ds : Option (List Diagnostic)}
    (ended : (finish setup host p d launch).1 = .ok ds) :
    (finish setup host p d launch).2.2.store = replay p.store (p.issued setup d ds) := by
  by_cases flagged : d.uri ∈ p.closedInFlight
  · obtain ⟨rfl, store⟩ := finish_flagged flagged ended
    simp [store, issued, flagged, replay]
  · by_cases reported : ∃ es, launch.Reports setup.stack es
    · obtain ⟨es, reported⟩ := reported
      obtain ⟨rfl, store⟩ := finish_reported flagged ended reported
      exact store
    · obtain ⟨rfl, store⟩ := finish_failed flagged ended reported
      rw [store, replay_issued_none setup flagged]

end Publisher

namespace Session

variable {setup : Setup} {s : Session}

/-- What the end of an inspection writes, by what the step answers. -/
def issuedBy (setup : Setup) (p : Publisher) (d : Document) :
    Except StepFailure Answer → List (Write String (List Diagnostic))
  | .ok (.published ds) => p.issued setup d ds
  | .ok (.ended ds) => p.issued setup d ds
  | _ => []

/-- The writes of an inspection that a step brings to its end. -/
def concluding (setup : Setup) (s : Session) (a : Step) : List (Write String (List Diagnostic)) :=
  (s.ending setup a).toList.flatMap fun e =>
    issuedBy setup s.publisher e.document (s.step setup a).2.answer

/-- The writes of a step. -/
def writes (setup : Setup) (s : Session) (a : Step) : List (Write String (List Diagnostic)) :=
  match a with
  | .put path values =>
    (Document.ofPath? Document.systemLinks setup.root path).toList.flatMap fun d =>
      (readDiagnostics values).toOption.toList.map fun ds => .set d.uri ds
  | .remove path =>
    (Document.ofPath? Document.systemLinks setup.root path).toList.map fun d => .erase d.uri
  | .documentClosed _ => (s.closing a (s.step setup a).2).toList.map .erase
  | .provide _ _ | .finish _ _ => s.concluding setup a
  | _ => []

/-- The writes of a session, step by step. -/
def written (setup : Setup) (s : Session) : List Step → List (Write String (List Diagnostic))
  | [] => []
  | a :: rest => s.writes setup a ++ written setup (s.step setup a).1 rest

/-! ### One step -/

/-- A step writes to the store what it is said to write, and nothing else. -/
def Stores (setup : Setup) (s : Session) (a : Step) : Prop :=
  (s.step setup a).1.publisher.store = replay s.publisher.store (s.writes setup a)

theorem finish_issues (setup : Setup) (host : Host) (p : Publisher) (d : Document) (launch : Launch)
    {f : Option (List Diagnostic) → Answer}
    (told : ∀ ds, issuedBy setup p d (.ok (f ds)) = p.issued setup d ds) :
    (Publisher.finish setup host p d launch).2.2.store =
      replay p.store
        (issuedBy setup p d (answerOf f (Publisher.finish setup host p d launch).1)) := by
  cases ended : (Publisher.finish setup host p d launch).1 with
  | error i => exact Publisher.finish_interrupted ended
  | ok ds => rw [Publisher.finish_replays ended, answerOf, told]

theorem concluding_of_none {a : Step} (ends : s.ending setup a = none) :
    s.concluding setup a = [] := by
  rw [concluding, ends]
  rfl

theorem concluding_of_some {a : Step} {e : End} (ends : s.ending setup a = some e) :
    s.concluding setup a = issuedBy setup s.publisher e.document (s.step setup a).2.answer := by
  rw [concluding, ends]
  exact List.append_nil _

/-- A step of an inspection that is not brought to its end writes nothing. -/
theorem stores_unended {a : Step} {next : Session × Reply} (stepped : s.step setup a = next)
    (concerned : s.writes setup a = s.concluding setup a) (ends : s.ending setup a = none)
    (store : next.1.publisher.store = s.publisher.store) : Stores setup s a := by
  rw [Stores, stepped, store, concerned, concluding_of_none ends]
  rfl

theorem stores_provide (setup : Setup) (s : Session) (path : String) (launch : Launch) :
    Stores setup s (.provide path launch) := by
  have refused {next : Session × Reply} (stepped : s.step setup (.provide path launch) = next)
      (none : next.2.requests = []) (store : next.1.publisher.store = s.publisher.store) :
      Stores setup s (.provide path launch) := by
    subst stepped
    have ends : s.ending setup (.provide path launch) = .none := by
      rw [ending, accepting_of_requests none]
      rfl
    exact stores_unended rfl rfl ends store
  cases found : Document.ofPath? Document.systemLinks setup.root path with
  | none =>
    have stepped : s.step setup (.provide path launch) = (s, .failure .nullCharacter) := by
      simp only [step, withDocument, found]
    exact refused stepped rfl rfl
  | some d =>
    have stepped : s.step setup (.provide path launch) = s.provide setup d launch := by
      simp only [step, withDocument, found]
    rw [provide] at stepped
    obtain ⟨_, trace, asked⟩ | ⟨_, i, trace, asked⟩ | ⟨_, q, trace, asked⟩ :=
      Publisher.request_cases setup s.publisher d
    · rw [asked] at stepped
      exact refused stepped rfl rfl
    · rw [asked] at stepped
      exact refused stepped rfl rfl
    · rw [asked] at stepped
      have ends : s.ending setup (.provide path launch) = some ⟨d, launch, s.host.notifier⟩ := by
        simp [ending, accepting, stepped, found]
      rw [Stores, writes, concluding_of_some ends, stepped]
      exact finish_issues setup s.host (s.publisher.enter d.uri) d launch
        (f := .published) fun _ => rfl

theorem stores_finish (setup : Setup) (s : Session) (name : String) (launch : Launch) :
    Stores setup s (.finish name launch) := by
  cases running : s.run? name with
  | none =>
    have stepped : s.step setup (.finish name launch) = (s, .failure (.unknownName name)) := by
      simp only [step, finishRun, running]
    exact stores_unended stepped rfl (by simp only [ending, running]) rfl
  | some run =>
    obtain ⟨i, progress⟩ := run
    cases progress with
    | ended outcome =>
      have stepped : s.step setup (.finish name launch) =
          (s, ⟨answerOf .ended outcome, .empty, []⟩) := by
        simp only [step, finishRun, running]
      exact stores_unended stepped rfl (by simp only [ending, running]) rfl
    | waiting d =>
      have ends : s.ending setup (.finish name launch) = some ⟨d, launch, s.host.notifier⟩ := by
        simp only [ending, running]
      rw [Stores, writes, concluding_of_some ends]
      simp only [step, finishRun, running]
      exact finish_issues setup s.host s.publisher d launch (f := .ended) fun _ => rfl

theorem stores_documentClosed (setup : Setup) (s : Session) (name : String) :
    Stores setup s (.documentClosed name) := by
  have moved := step_move setup s (.documentClosed name)
  unfold Stores writes
  generalize s.closing (.documentClosed name) (s.step setup (.documentClosed name)).2 = c at moved ⊢
  generalize (s.step setup (.documentClosed name)).1 = next at moved ⊢
  cases moved with
  | still host opened => rfl
  | closed known last => exact (Publisher.documentClosed_last last).2.1

/-- Every step stores what it writes. -/
theorem stores_step (setup : Setup) (s : Session) (a : Step) : Stores setup s a := by
  cases a with
  | provide path launch => exact stores_provide setup s path launch
  | finish name launch => exact stores_finish setup s name launch
  | documentClosed name => exact stores_documentClosed setup s name
  | put path values =>
    simp only [Stores, step, withDocument, writes]
    cases Document.ofPath? Document.systemLinks setup.root path with
    | none => rfl
    | some d => cases readDiagnostics values <;> rfl
  | remove path =>
    simp only [Stores, step, withDocument, writes]
    cases Document.ofPath? Document.systemLinks setup.root path <;> rfl
  | start name path =>
    simp only [Stores, step, withDocument, startRun]
    split
    · rfl
    · rename_i d found
      obtain ⟨_, trace, asked⟩ | ⟨_, i, trace, asked⟩ | ⟨_, q, trace, asked⟩ :=
        Publisher.request_cases setup s.publisher d
      all_goals
        rw [asked]
        rfl
  | openView name path =>
    simp only [Stores, step, withDocument]
    split <;> rfl
  | look path =>
    simp only [Stores, step, withDocument]
    split <;> rfl
  | closeView name =>
    simp only [Stores, step, withView]
    split <;> rfl
  | listViews => rfl
  | openSettings => rfl
  | setNotifier reply => rfl
  | setSettingsFailure failure => rfl

/-! ### A whole run -/

/-- The store that steps lead to is the replay of their writes. -/
theorem store_after (setup : Setup) (s : Session) (steps : List Step) :
    (after setup s steps).publisher.store =
      replay s.publisher.store (written setup s steps) := by
  induction steps generalizing s with
  | nil => rfl
  | cons a rest ih => rw [after_cons, ih, stores_step setup s a, written, Entries.replay_append]

/-- The store as its history has it: any sequence of writes tells of the entries it leads to, and so
do the writes of a session, of the host and of the inspections alike. -/
structure Recorded (setup : Setup) (host : Host) (steps : List Step) : Prop where
  writes : ∀ log : List (Write String (List Diagnostic)), Chronicles log (replay [] log)
  replayed : (after setup (ofHost host) steps).publisher.store =
    replay [] (written setup (ofHost host) steps)
  store : Chronicles (written setup (ofHost host) steps)
    (after setup (ofHost host) steps).publisher.store

/-- The store is told by the writes of its session. -/
theorem store_recorded (setup : Setup) (host : Host) (steps : List Step) :
    Recorded setup host steps := by
  have replayed := store_after setup (ofHost host) steps
  refine ⟨Entries.chronicles_replay, replayed, ?_⟩
  rw [replayed]
  exact Entries.chronicles_replay _

/-- Three documents with diagnostics, of which the first loses its own to a failed inspection before
it has some again, while those of the second are replaced. -/
def reentering : List Step :=
  [.put "a.ex" [], .put "b.ex" [], .put "c.ex" [],
    .provide "a.ex" (.finished "" "boom" (some 1)), .put "b.ex" [], .put "a.ex" []]

theorem store_recorded_reentering :
    written (.ofRoot (Path.ofText "/proj")) (ofHost ⟨.chose none, none⟩) reentering =
        [.set "file:///proj/a.ex" [], .set "file:///proj/b.ex" [], .set "file:///proj/c.ex" [],
          .erase "file:///proj/a.ex", .set "file:///proj/b.ex" [], .set "file:///proj/a.ex" []] ∧
      Entries.keys (after (.ofRoot (Path.ofText "/proj")) (ofHost ⟨.chose none, none⟩)
          reentering).publisher.store =
        ["file:///proj/b.ex", "file:///proj/c.ex", "file:///proj/a.ex"] ∧
      Recorded (.ofRoot (Path.ofText "/proj")) ⟨.chose none, none⟩ reentering :=
  ⟨by decide +kernel, by decide +kernel, store_recorded _ _ _⟩

end Session

end CredoAssistant
