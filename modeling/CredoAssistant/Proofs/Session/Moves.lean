import CredoAssistant.Proofs.Publisher
import CredoAssistant.Session

/-!
Sessions step by step. `Move` lists everything that a step can do to a session; what holds of every
reachable session is proved by its cases and carried along the steps by induction.
-/
namespace CredoAssistant

deriving instance DecidableEq for Progress

/-- The document of an inspection that waits for its launch. -/
def Progress.document? : Progress → Option Document
  | .waiting d => some d
  | .ended _ => none

namespace Session

/-- The state that the steps lead to. -/
def after (setup : Setup) (s : Session) (steps : List Step) : Session :=
  steps.foldl (fun s a => (s.step setup a).1) s

@[simp] theorem after_nil (setup : Setup) (s : Session) : after setup s [] = s := rfl

@[simp] theorem after_cons (setup : Setup) (s : Session) (a : Step) (rest : List Step) :
    after setup s (a :: rest) = after setup (s.step setup a).1 rest := rfl

theorem after_append (setup : Setup) (s : Session) (steps rest : List Step) :
    after setup s (steps ++ rest) = after setup (after setup s steps) rest :=
  List.foldl_append

/-- The last state of a run is the one that its steps lead to. -/
theorem getLast?_run (setup : Setup) (s : Session) (a : Step) (rest : List Step) :
    ((run setup s (a :: rest)).getLast?).map Prod.snd = some (after setup s (a :: rest)) := by
  induction rest generalizing s a with
  | nil => rfl
  | cons b rest ih =>
    have tail := ih (s.step setup a).1 b
    simpa [run, List.getLast?_cons_cons] using tail

/-- The documents of the inspections that were accepted and have not ended. -/
def pending (s : Session) : List Document := s.runs.filterMap Progress.document?

/-- The uri whose last view a step reports as closed. -/
def closing (s : Session) (a : Step) (r : Reply) : Option String :=
  match a, r.answer with
  | .documentClosed name, .ok (.removed true) =>
    (Entries.get? name s.views).map fun v => v.document.uri
  | _, _ => none

/-- The uris whose last views are reported as closed, step by step. -/
def closings (setup : Setup) (s : Session) : List Step → List String
  | [] => []
  | a :: rest =>
    (s.closing a (s.step setup a).2).toList ++ closings setup (s.step setup a).1 rest

/-- What a step can do, with the uri that it reports as closed. A request is refused when its
document is in flight, and aborted when it cannot be made. -/
inductive Move (setup : Setup) (s : Session) : Step → Option String → Session → Prop
  | still {a : Step} (host : Host) (opened : Nat) :
      Move setup s a none
        { s with host, publisher := { s.publisher with settingsOpened := opened } }
  | opened {name path : String} (d : Document) :
      Move setup s (.openView name path) none
        { s with
          publisher := s.publisher.openView ⟨s.nextView, d⟩
          views := Entries.set name ⟨s.nextView, d⟩ s.views
          nextView := s.nextView + 1 }
  | forgotten {name : String} {v : View} (known : Entries.get? name s.views = some v) :
      Move setup s (.closeView name) none { s with publisher := s.publisher.closeView v }
  | closed {name : String} {v : View} (known : Entries.get? name s.views = some v)
      (last : s.publisher.isShownElsewhere v = false) :
      Move setup s (.documentClosed name) (some v.document.uri)
        { s with publisher := (s.publisher.documentClosed v).2 }
  | stored {path : String} {values : List Value} (d : Document) (ds : List Diagnostic) :
      Move setup s (.put path values) none
        (s.setStore (Entries.set d.uri ds s.publisher.store))
  | erased {path : String} (d : Document) :
      Move setup s (.remove path) none (s.setStore (Entries.erase d.uri s.publisher.store))
  | refused {name path : String} :
      Move setup s (.start name path) none (s.keepRun name s.publisher (.ended (.ok none)))
  | aborted {name path : String} {d : Document} {i : Interruption}
      (free : d.uri ∉ s.publisher.inFlight) :
      Move setup s (.start name path) none
        (s.keepRun name (s.publisher.release d.uri) (.ended (.error i)))
  | abortedAtOnce {path : String} {launch : Launch} {d : Document}
      (free : d.uri ∉ s.publisher.inFlight) :
      Move setup s (.provide path launch) none
        { s with publisher := s.publisher.release d.uri }
  | started {name path : String} {d : Document}
      (found : Document.ofPath? Document.systemLinks setup.root path = some d)
      (free : d.uri ∉ s.publisher.inFlight) :
      Move setup s (.start name path) none
        (s.keepRun name (s.publisher.enter d.uri) (.waiting d))
  | provided {path : String} {launch : Launch} {d : Document}
      (found : Document.ofPath? Document.systemLinks setup.root path = some d)
      (free : d.uri ∉ s.publisher.inFlight) :
      Move setup s (.provide path launch) none
        { s with
          publisher :=
            (Publisher.finish setup s.host (s.publisher.enter d.uri) d launch).2.2 }
  | finished {name : String} {launch : Launch} {i : Nat} {d : Document}
      (running : s.run? name = some (i, .waiting d)) :
      Move setup s (.finish name launch) none
        { s with
          publisher := (Publisher.finish setup s.host s.publisher d launch).2.2
          runs :=
            s.runs.set i (.ended (Publisher.finish setup s.host s.publisher d launch).1) }

/-- Every step is one of the moves. -/
theorem step_move (setup : Setup) (s : Session) (a : Step) :
    Move setup s a (s.closing a (s.step setup a).2) (s.step setup a).1 := by
  have unchanged : ∀ {b : Step}, Move setup s b none s :=
    .still s.host s.publisher.settingsOpened
  cases a with
  | openView name path =>
    simp only [step, withDocument]
    split
    · exact unchanged
    · exact .opened _
  | closeView name =>
    simp only [step, withView]
    split
    · exact unchanged
    · rename_i v known
      exact .forgotten known
  | documentClosed name =>
    simp only [step, withView]
    cases known : Entries.get? name s.views with
    | none => exact unchanged
    | some v =>
      cases shown : s.publisher.isShownElsewhere v with
      | true =>
        simp only [Publisher.documentClosed_shown shown]
        exact unchanged
      | false =>
        have report := (Publisher.documentClosed_last shown).1
        simp only [closing, Reply.ok, report, known, Option.map_some]
        exact .closed known shown
  | listViews => exact unchanged
  | openSettings => exact .still s.host _
  | provide path launch =>
    simp only [step, withDocument]
    split
    · exact unchanged
    · rename_i d found
      simp only [provide]
      obtain ⟨_, trace, h⟩ | ⟨free, i, trace, h⟩ | ⟨free, q, trace, h⟩ :=
        Publisher.request_cases setup s.publisher d
      · rw [h]
        exact unchanged
      · rw [h]
        exact .abortedAtOnce free
      · rw [h]
        exact .provided found free
  | start name path =>
    simp only [step, withDocument]
    split
    · exact unchanged
    · rename_i d found
      simp only [startRun]
      obtain ⟨_, trace, h⟩ | ⟨free, i, trace, h⟩ | ⟨free, q, trace, h⟩ :=
        Publisher.request_cases setup s.publisher d
      · rw [h]
        exact .refused
      · rw [h]
        exact .aborted free
      · rw [h]
        exact .started found free
  | finish name launch =>
    simp only [step, finishRun]
    split
    · exact unchanged
    · exact unchanged
    · rename_i i d running
      exact .finished running
  | put path values =>
    simp only [step, withDocument]
    split
    · exact unchanged
    · rename_i d found
      split
      · exact unchanged
      · exact .stored d _
  | remove path =>
    simp only [step, withDocument]
    split
    · exact unchanged
    · rename_i d found
      exact .erased d
  | look path =>
    simp only [step, withDocument]
    split <;> exact unchanged
  | setNotifier reply => exact .still _ s.publisher.settingsOpened
  | setSettingsFailure failure => exact .still _ s.publisher.settingsOpened

/-- What every step keeps, and a fresh session has, holds wherever steps lead. -/
theorem after_induction {setup : Setup} (holds : Session → Prop)
    (kept : ∀ s a c s', holds s → Move setup s a c s' → holds s') {s : Session} (start : holds s)
    (steps : List Step) : holds (after setup s steps) := by
  induction steps generalizing s with
  | nil => exact start
  | cons a rest ih => exact ih (kept s a _ _ start (step_move setup s a))

end Session

end CredoAssistant
