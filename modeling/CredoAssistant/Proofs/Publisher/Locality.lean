import CredoAssistant.Proofs.Publisher

/-!
What a publisher does to one document and to the others. Whatever happens to a document reads and
writes only what the publisher holds of that document: whether it is in flight, whether it is
flagged, and its diagnostics. So two publishers that agree on a document answer alike and go on
agreeing on it, and nothing that happens to another document is seen there.
-/
namespace CredoAssistant

/-- What the end of an inspection does to the entry of its document. -/
inductive Change
  | kept
  | dropped
  | replaced (ds : List Diagnostic)

/-- The store behind a change of the entry of `uri`. -/
def Change.apply (uri : String) (store : Store) : Change → Store
  | kept => store
  | dropped => Entries.erase uri store
  | replaced ds => Entries.set uri ds store

namespace Change

variable {uri other : String} {store store' : Store}

theorem get?_apply_congr (c : Change) (same : Entries.get? uri store = Entries.get? uri store') :
    Entries.get? uri (c.apply uri store) = Entries.get? uri (c.apply uri store') := by
  cases c with
  | kept => exact same
  | dropped =>
    exact (Entries.get?_erase_self uri store).trans (Entries.get?_erase_self uri store').symm
  | replaced ds =>
    exact (Entries.get?_set_self uri ds store).trans (Entries.get?_set_self uri ds store').symm

theorem get?_apply_ne (c : Change) (apart : other ≠ uri) (store : Store) :
    Entries.get? uri (c.apply other store) = Entries.get? uri store := by
  cases c with
  | kept => rfl
  | dropped => exact Entries.get?_erase_ne apart store
  | replaced ds => exact Entries.get?_set_ne apart ds store

end Change

namespace Publisher

variable {setup : Setup} {host : Host} {p q : Publisher} {d : Document} {launch : Launch}
  {uri other : String}

/-- Two publishers hold the same of the document of `uri`. -/
structure Agrees (uri : String) (p q : Publisher) : Prop where
  inFlight : uri ∈ p.inFlight ↔ uri ∈ q.inFlight
  flagged : uri ∈ p.closedInFlight ↔ uri ∈ q.closedInFlight
  entry : Entries.get? uri p.store = Entries.get? uri q.store

theorem Agrees.refl (uri : String) (p : Publisher) : Agrees uri p p := ⟨Iff.rfl, Iff.rfl, rfl⟩

theorem Agrees.trans {r : Publisher} (first : Agrees uri p q) (second : Agrees uri q r) :
    Agrees uri p r :=
  ⟨first.inFlight.trans second.inFlight, first.flagged.trans second.flagged,
    first.entry.trans second.entry⟩

/-- Neither the open views nor what was opened of the settings matter. -/
theorem Agrees.with_views (agrees : Agrees uri p q) {vs ws : List View} {n k : Nat} :
    Agrees uri { p with views := vs, settingsOpened := n }
      { q with views := ws, settingsOpened := k } :=
  ⟨agrees.inFlight, agrees.flagged, agrees.entry⟩

/-! ### Requests -/

theorem Agrees.enter (agrees : Agrees uri p q) : Agrees uri (p.enter uri) (q.enter uri) := by
  refine ⟨?_, agrees.flagged, agrees.entry⟩
  rw [mem_inFlight_enter, mem_inFlight_enter]
  exact or_congr_right agrees.inFlight

theorem Agrees.release (agrees : Agrees uri p q) : Agrees uri (p.release uri) (q.release uri) := by
  refine ⟨?_, ?_, agrees.entry⟩
  · rw [mem_inFlight_release, mem_inFlight_release]
    exact and_congr_left' agrees.inFlight
  · rw [mem_closedInFlight_release, mem_closedInFlight_release]
    exact and_congr_left' agrees.flagged

theorem agrees_enter_ne (apart : other ≠ uri) : Agrees uri (p.enter other) p := by
  refine ⟨?_, Iff.rfl, rfl⟩
  rw [mem_inFlight_enter]
  exact or_iff_right apart.symm

theorem agrees_release_ne (apart : other ≠ uri) : Agrees uri (p.release other) p := by
  refine ⟨?_, ?_, rfl⟩
  · rw [mem_inFlight_release]
    exact and_iff_left apart.symm
  · rw [mem_closedInFlight_release]
    exact and_iff_left apart.symm

/-- A request is answered by what the publisher holds of its document. -/
theorem Agrees.request (setup : Setup) (agrees : Agrees d.uri p q) :
    (Publisher.request setup p d).1 = (Publisher.request setup q d).1 ∧
      (Publisher.request setup p d).2.1 = (Publisher.request setup q d).2.1 ∧
      Agrees d.uri (Publisher.request setup p d).2.2 (Publisher.request setup q d).2.2 := by
  unfold Publisher.request
  by_cases busy : d.uri ∈ p.inFlight
  · rw [if_pos busy, if_pos (agrees.inFlight.mp busy)]
    exact ⟨rfl, rfl, agrees⟩
  · rw [if_neg busy, if_neg (agrees.inFlight.not.mp busy)]
    cases Inspection.request? setup.settings setup.options setup.root d.path with
    | none => exact ⟨rfl, rfl, agrees.enter.release⟩
    | some request => exact ⟨rfl, rfl, agrees.enter⟩

theorem agrees_request_ne (setup : Setup) (p : Publisher) (apart : d.uri ≠ uri) :
    Agrees uri (request setup p d).2.2 p := by
  obtain ⟨_, trace, h⟩ | ⟨_, i, trace, h⟩ | ⟨_, request, trace, h⟩ := request_cases setup p d
  · rw [h]
    exact .refl uri p
  · rw [h]
    exact agrees_release_ne apart
  · rw [h]
    exact agrees_enter_ne apart

theorem request_views (setup : Setup) (p : Publisher) (d : Document) :
    (request setup p d).2.2.views = p.views := by
  obtain ⟨_, trace, h⟩ | ⟨_, i, trace, h⟩ | ⟨_, request, trace, h⟩ := request_cases setup p d <;>
    rw [h]
  · rfl
  · rfl

/-! ### Ends of inspections -/

/-- Settling a result comes to an answer, a trace and a change of the entry that do not depend on
what is stored. -/
theorem settle_eq_change (setup : Setup) (d : Document) (closed : Bool) (result : Inspection) :
    ∃ ds trace, ∃ change : Change, ∀ store,
      settle setup store d closed result = (ds, trace, change.apply d.uri store) := by
  have discarded : ∃ change : Change, ∀ store,
      discard setup store d.uri = change.apply d.uri store := by
    unfold discard
    split
    · exact ⟨.dropped, fun _ => rfl⟩
    · exact ⟨.kept, fun _ => rfl⟩
  obtain ⟨change, discarded⟩ := discarded
  unfold settle publish
  split
  · exact ⟨none, _, .kept, fun _ => rfl⟩
  · split
    · split
      · exact ⟨none, _, change, fun store => by rw [discarded]⟩
      · exact ⟨some _, _, .replaced _, fun _ => rfl⟩
    · exact ⟨none, _, change, fun store => by rw [discarded]⟩

/-- The end of an inspection depends on the publisher only through the flag of its document. -/
theorem finish_eq_change (setup : Setup) (host : Host) (d : Document) (launch : Launch)
    (flag : Bool) :
    ∃ outcome trace n, ∃ change : Change, ∀ p : Publisher, p.closedInFlight.contains d.uri = flag →
      finish setup host p d launch =
        (outcome, trace, release
          { p with
            store := change.apply d.uri p.store
            settingsOpened := p.settingsOpened + n } d.uri) := by
  unfold finish
  obtain ⟨concluded, trace⟩ :=
    Inspection.conclude setup.stack host (setup.settings.commandFor d.path) launch
  cases concluded with
  | error i => exact ⟨.error i, trace, trace.settingsOpened, .kept, fun p _ => rfl⟩
  | ok result =>
    obtain ⟨ds, more, change, settled⟩ := settle_eq_change setup d flag result
    refine ⟨.ok ds, trace ++ more, trace.settingsOpened, change, fun p same => ?_⟩
    subst same
    simp only [settled]

/-- Inspections of a document end alike on equal hosts where publishers agree on it. -/
theorem Agrees.finish {host' : Host} (setup : Setup) (launch : Launch) (agrees : Agrees d.uri p q)
    (same : host' = host) :
    (Publisher.finish setup host' q d launch).1 = (Publisher.finish setup host p d launch).1 ∧
      (Publisher.finish setup host' q d launch).2.1 =
        (Publisher.finish setup host p d launch).2.1 ∧
      Agrees d.uri (Publisher.finish setup host p d launch).2.2
        (Publisher.finish setup host' q d launch).2.2 := by
  subst same
  have flags : q.closedInFlight.contains d.uri = p.closedInFlight.contains d.uri := by
    rw [Bool.eq_iff_iff, List.contains_iff_mem, List.contains_iff_mem]
    exact agrees.flagged.symm
  obtain ⟨outcome, trace, n, change, ended⟩ :=
    finish_eq_change setup host' d launch (p.closedInFlight.contains d.uri)
  rw [ended p rfl, ended q flags]
  refine ⟨rfl, rfl, Agrees.release ⟨agrees.inFlight, agrees.flagged, ?_⟩⟩
  exact change.get?_apply_congr agrees.entry

theorem agrees_finish_ne (setup : Setup) (host : Host) (p : Publisher) (launch : Launch)
    (apart : d.uri ≠ uri) : Agrees uri (finish setup host p d launch).2.2 p := by
  obtain ⟨outcome, trace, n, change, ended⟩ :=
    finish_eq_change setup host d launch (p.closedInFlight.contains d.uri)
  rw [ended p rfl]
  refine (agrees_release_ne apart).trans ⟨Iff.rfl, Iff.rfl, ?_⟩
  exact change.get?_apply_ne apart p.store

/-! ### Closed views and direct changes of the store -/

theorem documentClosed_views (p : Publisher) (v : View) :
    (p.documentClosed v).2.views = p.views := by
  cases shown : p.isShownElsewhere v with
  | true => rw [documentClosed_shown shown]
  | false => exact (documentClosed_last shown).2.2.1

theorem Agrees.documentClosed {v w : View} (agrees : Agrees v.document.uri p q)
    (same : v.document.uri = w.document.uri) (shown : p.isShownElsewhere v = q.isShownElsewhere w) :
    (p.documentClosed v).1 = (q.documentClosed w).1 ∧
      Agrees v.document.uri (p.documentClosed v).2 (q.documentClosed w).2 := by
  cases elsewhere : p.isShownElsewhere v with
  | true =>
    rw [documentClosed_shown elsewhere, documentClosed_shown (shown ▸ elsewhere)]
    exact ⟨rfl, agrees⟩
  | false =>
    obtain ⟨first, store, _, inFlight, flagged⟩ := documentClosed_last elsewhere
    obtain ⟨second, store', _, inFlight', flagged'⟩ := documentClosed_last (shown ▸ elsewhere)
    refine ⟨first.trans second.symm, ?_, ?_, ?_⟩
    · rw [inFlight, inFlight']
      exact agrees.inFlight
    · rw [flagged, flagged', ← same]
      exact or_congr agrees.flagged (and_congr_right fun _ => agrees.inFlight)
    · rw [store, store', ← same, Entries.get?_erase_self, Entries.get?_erase_self]

theorem agrees_documentClosed_ne {v : View} (p : Publisher) (apart : v.document.uri ≠ uri) :
    Agrees uri (p.documentClosed v).2 p := by
  cases elsewhere : p.isShownElsewhere v with
  | true =>
    rw [documentClosed_shown elsewhere]
    exact .refl uri p
  | false =>
    obtain ⟨_, store, _, inFlight, flagged⟩ := documentClosed_last elsewhere
    refine ⟨by rw [inFlight], ?_, ?_⟩
    · rw [flagged]
      exact or_iff_left fun both => apart both.1.symm
    · rw [store]
      exact Entries.get?_erase_ne apart p.store

theorem Agrees.change (agrees : Agrees uri p q) (c : Change) :
    Agrees uri { p with store := c.apply uri p.store } { q with store := c.apply uri q.store } :=
  ⟨agrees.inFlight, agrees.flagged, c.get?_apply_congr agrees.entry⟩

theorem agrees_change_ne (c : Change) (p : Publisher) (apart : other ≠ uri) :
    Agrees uri { p with store := c.apply other p.store } p :=
  ⟨Iff.rfl, Iff.rfl, c.get?_apply_ne apart p.store⟩

end Publisher

end CredoAssistant
