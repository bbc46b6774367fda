import CredoAssistant.Proofs.Entries
import CredoAssistant.Proofs.Inspection
import CredoAssistant.Publisher

/-!
What a publisher does with the end of a launch. The store that an inspection leaves follows from
what its launch reports, from the flag of its document and from the settings alone.
-/
namespace CredoAssistant

theorem Document.path_of_ofPath? {links : Links} {root : Path} {path : String} {d : Document}
    (found : Document.ofPath? links root path = some d) : d.path = path := by
  simp only [Document.ofPath?, Option.ite_none_left_eq_some, Option.some.injEq] at found
  exact found.2 ▸ rfl

namespace Publisher

variable {setup : Setup} {host : Host} {p : Publisher} {d : Document} {launch : Launch}

/-- Whether an open view shows the document of `uri`. -/
def Shows (p : Publisher) (uri : String) : Prop := ∃ v ∈ p.views, v.document.uri = uri

instance (p : Publisher) (uri : String) : Decidable (p.Shows uri) :=
  inferInstanceAs (Decidable (∃ v ∈ p.views, v.document.uri = uri))

theorem mem_inFlight_enter {p : Publisher} {uri other : String} :
    other ∈ (p.enter uri).inFlight ↔ other = uri ∨ other ∈ p.inFlight := by
  simp [enter]

theorem mem_inFlight_release {p : Publisher} {uri other : String} :
    other ∈ (p.release uri).inFlight ↔ other ∈ p.inFlight ∧ other ≠ uri := by
  simp [release]

theorem mem_closedInFlight_release {p : Publisher} {uri other : String} :
    other ∈ (p.release uri).closedInFlight ↔ other ∈ p.closedInFlight ∧ other ≠ uri := by
  simp [release]

theorem release_enter (p : Publisher) (uri : String) :
    (p.enter uri).release uri = p.release uri := by
  by_cases known : uri ∈ p.inFlight <;> simp [enter, release, List.insert, known]

/-- A view is shown elsewhere exactly when one of another number shows its document. -/
theorem isShownElsewhere_iff {p : Publisher} {v : View} :
    p.isShownElsewhere v = true ↔
      ∃ w ∈ p.views, w.number ≠ v.number ∧ w.document.uri = v.document.uri := by
  simp [isShownElsewhere]

theorem documentClosed_shown {v : View} (shown : p.isShownElsewhere v = true) :
    p.documentClosed v = (false, p) := by
  simp [documentClosed, shown]

/-- What a publisher keeps of the last view of a document. -/
theorem documentClosed_last {v : View} (last : p.isShownElsewhere v = false) :
    (p.documentClosed v).1 = true ∧
      (p.documentClosed v).2.store = Entries.erase v.document.uri p.store ∧
      (p.documentClosed v).2.views = p.views ∧ (p.documentClosed v).2.inFlight = p.inFlight ∧
      ∀ uri, uri ∈ (p.documentClosed v).2.closedInFlight ↔
        uri ∈ p.closedInFlight ∨ uri = v.document.uri ∧ uri ∈ p.inFlight := by
  simp only [documentClosed, last, Bool.false_eq_true, if_false, true_and]
  intro uri
  by_cases running : v.document.uri ∈ p.inFlight
  · simp only [running, if_true, List.mem_insert_iff]
    constructor
    · rintro (rfl | flagged)
      · exact .inr ⟨rfl, running⟩
      · exact .inl flagged
    · rintro (flagged | ⟨rfl, _⟩)
      · exact .inr flagged
      · exact .inl rfl
  · simp only [running, if_false]
    constructor
    · exact .inl
    · rintro (flagged | ⟨rfl, inFlight⟩)
      · exact flagged
      · exact absurd inFlight running

/-- A request is refused for a document in flight, aborted if it cannot be made, and else started.
-/
theorem request_cases (setup : Setup) (p : Publisher) (d : Document) :
    (d.uri ∈ p.inFlight ∧ ∃ trace, request setup p d = (.busy, trace, p)) ∨
      (d.uri ∉ p.inFlight ∧ ∃ i trace, request setup p d =
        (.interrupted i, trace, p.release d.uri)) ∨
      (d.uri ∉ p.inFlight ∧ ∃ q trace, request setup p d = (.started q, trace, p.enter d.uri)) := by
  by_cases busy : d.uri ∈ p.inFlight
  · exact .inl ⟨busy, _, if_pos busy⟩
  · refine .inr ?_
    simp only [request, busy, if_false, release_enter, not_false_eq_true, true_and]
    split
    · exact .inl ⟨_, _, rfl⟩
    · exact .inr ⟨_, _, rfl⟩

/-- However an inspection ends, it leaves the views alone and its document is free. -/
theorem finish_frame (setup : Setup) (host : Host) (p : Publisher) (d : Document)
    (launch : Launch) :
    (finish setup host p d launch).2.2.views = p.views ∧
      (finish setup host p d launch).2.2.inFlight = (p.release d.uri).inFlight ∧
      (finish setup host p d launch).2.2.closedInFlight = (p.release d.uri).closedInFlight := by
  unfold finish
  obtain ⟨outcome, trace⟩ :=
    Inspection.conclude setup.stack host (setup.settings.commandFor d.path) launch
  cases outcome with
  | error i => exact ⟨rfl, rfl, rfl⟩
  | ok result => exact ⟨rfl, rfl, rfl⟩

theorem finish_interrupted {i : Interruption}
    (ended : (finish setup host p d launch).1 = .error i) :
    (finish setup host p d launch).2.2.store = p.store := by
  unfold finish at ended ⊢
  generalize Inspection.conclude setup.stack host (setup.settings.commandFor d.path) launch =
    concluded
    at ended ⊢
  obtain ⟨outcome, trace⟩ := concluded
  cases outcome with
  | error j => rfl
  | ok result => cases ended

/-- An inspection that comes to an end is settled by its result. -/
theorem finish_settled {ds : Option (List Diagnostic)}
    (ended : (finish setup host p d launch).1 = .ok ds) :
    ∃ result, Inspection.ofLaunch setup.stack (setup.settings.commandFor d.path) launch =
      .ok result ∧
      ds = (settle setup p.store d (p.closedInFlight.contains d.uri) result).1 ∧
      (finish setup host p d launch).2.2.store =
        (settle setup p.store d (p.closedInFlight.contains d.uri) result).2.2 := by
  unfold finish at ended ⊢
  generalize done : Inspection.conclude setup.stack host (setup.settings.commandFor d.path) launch =
    concluded
    at ended ⊢
  obtain ⟨outcome, trace⟩ := concluded
  cases outcome with
  | error i => cases ended
  | ok result =>
    cases ended
    exact ⟨result, Inspection.ofLaunch_of_conclude (congrArg Prod.fst done), rfl, rfl⟩

/-- An inspection in flight is interrupted by what interrupts the report of its launch, and by
nothing else. -/
theorem finish_eq_error_iff (setup : Setup) (host : Host) (p : Publisher) (d : Document)
    (launch : Launch) {i : Interruption} :
    (finish setup host p d launch).1 = .error i ↔
      (Inspection.conclude setup.stack host (setup.settings.commandFor d.path) launch).1 =
        .error i := by
  unfold finish
  generalize Inspection.conclude setup.stack host (setup.settings.commandFor d.path) launch =
    concluded
  obtain ⟨outcome, trace⟩ := concluded
  cases outcome with
  | error j => simp
  | ok result => simp

theorem finish_of_reports {ds : List Diagnostic} (setup : Setup) (host : Host) (p : Publisher)
    (d : Document) (reported : launch.Reports setup.stack ds) :
    ∃ outcome, (finish setup host p d launch).1 = .ok outcome := by
  cases ended : (finish setup host p d launch).1 with
  | ok outcome => exact ⟨outcome, rfl⟩
  | error i =>
    obtain ⟨result, done⟩ :=
      Inspection.conclude_of_reports host (setup.settings.commandFor d.path) reported
    rw [(finish_eq_error_iff setup host p d launch).mp ended] at done
    cases done

theorem publish_reported (setup : Setup) (d : Document) (store : Store) {command : List String}
    {result : Inspection} {ds : List Diagnostic}
    (ended : Inspection.ofLaunch setup.stack command launch = .ok result)
    (reported : launch.Reports setup.stack ds) :
    (publish setup store d result).1 = some ds ∧
      (publish setup store d result).2.2 = Entries.set d.uri ds store := by
  obtain ⟨stdout, code, issues, rfl, read, mapped⟩ := reported
  have found : result = .found issues code := by
    simp only [Inspection.ofLaunch, ne_eq, not_true_eq_false, if_false, read] at ended
    exact (Except.ok.inj ended).symm
  subst found
  simp [publish, Inspection.isOk, Inspection.issues, mapped]

theorem publish_failed (setup : Setup) (d : Document) (store : Store) {command : List String}
    {result : Inspection} (ended : Inspection.ofLaunch setup.stack command launch = .ok result)
    (failed : ¬ ∃ ds, launch.Reports setup.stack ds) :
    (publish setup store d result).1 = none ∧
      (publish setup store d result).2.2 = discard setup store d.uri := by
  unfold publish
  split
  · rename_i success
    obtain ⟨stdout, code, rfl, read⟩ := (Inspection.ofLaunch_success ended).mp success
    cases mapped : Diagnostic.ofIssues result.issues with
    | error e => exact ⟨rfl, rfl⟩
    | ok ds => exact absurd ⟨ds, stdout, code, result.issues, rfl, read, mapped⟩ failed
  · exact ⟨rfl, rfl⟩

/-- A flagged inspection has no result and touches no diagnostics. -/
theorem finish_flagged {ds : Option (List Diagnostic)} (flagged : d.uri ∈ p.closedInFlight)
    (ended : (finish setup host p d launch).1 = .ok ds) :
    ds = none ∧ (finish setup host p d launch).2.2.store = p.store := by
  obtain ⟨result, _, same, store⟩ := finish_settled ended
  have closed : p.closedInFlight.contains d.uri = true := List.contains_iff_mem.mpr flagged
  simp only [settle, closed, if_true] at same store
  exact ⟨same, store⟩

/-- An inspection that is not flagged publishes its result. -/
theorem finish_published {ds : Option (List Diagnostic)} (unflagged : d.uri ∉ p.closedInFlight)
    (ended : (finish setup host p d launch).1 = .ok ds) :
    ∃ result, Inspection.ofLaunch setup.stack (setup.settings.commandFor d.path) launch =
      .ok result ∧
      ds = (publish setup p.store d result).1 ∧
      (finish setup host p d launch).2.2.store = (publish setup p.store d result).2.2 := by
  obtain ⟨result, answered, same, store⟩ := finish_settled ended
  have shown : p.closedInFlight.contains d.uri = false := by simpa using unflagged
  simp only [settle, shown, Bool.false_eq_true, if_false] at same store
  exact ⟨result, answered, same, store⟩

theorem finish_reported {ds : Option (List Diagnostic)} {es : List Diagnostic}
    (unflagged : d.uri ∉ p.closedInFlight) (ended : (finish setup host p d launch).1 = .ok ds)
    (reported : launch.Reports setup.stack es) :
    ds = some es ∧
      (finish setup host p d launch).2.2.store = Entries.set d.uri es p.store := by
  obtain ⟨result, answered, same, store⟩ := finish_published unflagged ended
  have published := publish_reported setup d p.store answered reported
  exact ⟨same.trans published.1, store.trans published.2⟩

theorem finish_failed {ds : Option (List Diagnostic)} (unflagged : d.uri ∉ p.closedInFlight)
    (ended : (finish setup host p d launch).1 = .ok ds)
    (failed : ¬ ∃ es, launch.Reports setup.stack es) :
    ds = none ∧
      (finish setup host p d launch).2.2.store = discard setup p.store d.uri := by
  obtain ⟨result, answered, same, store⟩ := finish_published unflagged ended
  have published := publish_failed setup d p.store answered failed
  exact ⟨same.trans published.1, store.trans published.2⟩

/-- The end of an inspection stores diagnostics for its own document only, and for that one only
while it is not flagged. -/
theorem finish_keys {uri : String}
    (stored : uri ∈ Entries.keys (finish setup host p d launch).2.2.store) :
    uri ∈ Entries.keys p.store ∨ uri = d.uri ∧ d.uri ∉ p.closedInFlight := by
  cases ended : (finish setup host p d launch).1 with
  | error i =>
    rw [finish_interrupted ended] at stored
    exact .inl stored
  | ok ds =>
    by_cases flagged : d.uri ∈ p.closedInFlight
    · rw [(finish_flagged flagged ended).2] at stored
      exact .inl stored
    · by_cases reported : ∃ es, launch.Reports setup.stack es
      · obtain ⟨es, reported⟩ := reported
        rw [(finish_reported flagged ended reported).2, Entries.mem_keys_set] at stored
        rcases stored with same | known
        · exact .inr ⟨same, flagged⟩
        · exact .inl known
      · rw [(finish_failed flagged ended reported).2, discard] at stored
        split at stored
        · exact .inl (Entries.mem_keys_erase.mp stored).2
        · exact .inl stored

end Publisher

end CredoAssistant
