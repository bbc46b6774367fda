import CredoAssistant.Proofs.Session.Guard

/-!
Diagnostics without a view. A host that asks for inspections of documents in view only, reports
every view it closes at once, and leaves the store to the publisher, never holds diagnostics of a
document that no open view shows. The store alone does not carry this along the steps: an inspection
under way may store diagnostics later, so its document has to be in view too, or be flagged.
-/
namespace CredoAssistant.Session

variable {setup : Setup} {s s' : Session} {a : Step} {c : Option String}

/-- The steps of a host that keeps to its part. Closing a view is not among them: it goes together
with the report. -/
def Permitted (setup : Setup) (s : Session) : Step → Prop
  | .provide path _ | .start _ path =>
    ∀ d, Document.ofPath? Document.systemLinks setup.root path = some d → s.publisher.Shows d.uri
  | .closeView _ | .put _ _ | .remove _ => False
  | _ => True

/-- Forgets a named view and reports it as closed. -/
def close (setup : Setup) (s : Session) (name : String) : Session :=
  after setup s [.closeView name, .documentClosed name]

/-- The sessions of hosts that keep to their part, each closed view being reported. -/
inductive Orderly (setup : Setup) : Session → Prop
  | fresh (host : Host) : Orderly setup (ofHost host)
  | step {s : Session} {a : Step} (orderly : Orderly setup s) (permitted : Permitted setup s a) :
      Orderly setup (s.step setup a).1
  | close {s : Session} {name : String} (orderly : Orderly setup s) :
      Orderly setup (s.close setup name)

/-- Views are told apart by their number, the named ones as well as the open ones. -/
structure Numbered (s : Session) : Prop where
  opened : ∀ v ∈ s.publisher.views, v.number < s.nextView
  named : ∀ name v, Entries.get? name s.views = some v → v.number < s.nextView
  apart : ∀ name v, Entries.get? name s.views = some v →
    ∀ w ∈ s.publisher.views, w.number = v.number → w = v

/-- Every stored document is in view, and every document in flight is in view or flagged. -/
structure Housed (s : Session) : Prop where
  stored : ∀ uri ∈ Entries.keys s.publisher.store, s.publisher.Shows uri
  inFlight : ∀ uri ∈ s.publisher.inFlight,
    uri ∈ s.publisher.closedInFlight ∨ s.publisher.Shows uri

theorem numbered_ofHost (host : Host) : Numbered (ofHost host) := by
  refine ⟨fun v open_ => ?_, fun name v known => ?_, fun name v known => ?_⟩
  · cases open_
  · cases known
  · cases known

theorem housed_ofHost (host : Host) : Housed (ofHost host) := by
  refine ⟨fun uri stored => ?_, fun uri running => ?_⟩
  · cases stored
  · cases running

theorem Numbered.move (numbered : Numbered s) (move : Move setup s a c s') : Numbered s' := by
  cases move with
  | @opened name path d =>
    have older : ∀ v ∈ s.publisher.views, v.number < s.nextView := numbered.opened
    have shown : ∀ v ∈ (s.publisher.openView ⟨s.nextView, d⟩).views,
        v ∈ s.publisher.views ∨ v = ⟨s.nextView, d⟩ := by
      intro v member
      simpa [Publisher.openView] using member
    have known : ∀ other v, Entries.get? other (Entries.set name ⟨s.nextView, d⟩ s.views) = some v →
        Entries.get? other s.views = some v ∨ v = ⟨s.nextView, d⟩ := by
      intro other v found
      by_cases same : name = other
      · subst same
        rw [Entries.get?_set_self] at found
        exact .inr (Option.some.inj found).symm
      · rw [Entries.get?_set_ne same] at found
        exact .inl found
    refine ⟨fun v member => ?_, fun other v found => ?_, fun other v found w member same => ?_⟩
    · rcases shown v member with before | rfl
      · exact Nat.lt_succ_of_lt (older v before)
      · exact Nat.lt_succ_self _
    · rcases known other v found with before | rfl
      · exact Nat.lt_succ_of_lt (numbered.named other v before)
      · exact Nat.lt_succ_self _
    · rcases shown w member with before | rfl
      · rcases known other v found with earlier | rfl
        · exact numbered.apart other v earlier w before same
        · exact absurd same (Nat.ne_of_lt (older w before))
      · rcases known other v found with earlier | rfl
        · exact absurd same.symm (Nat.ne_of_lt (numbered.named other v earlier))
        · rfl
  | @forgotten name v known =>
    have fewer : ∀ w ∈ (s.publisher.closeView v).views, w ∈ s.publisher.views := by
      intro w member
      exact (List.mem_filter.mp member).1
    refine ⟨fun w member => numbered.opened w (fewer w member), numbered.named, ?_⟩
    exact fun other u found w member => numbered.apart other u found w (fewer w member)
  | closed known last =>
    have views := (Publisher.documentClosed_last last).2.2.1
    refine ⟨?_, numbered.named, ?_⟩
    · rw [views]
      exact numbered.opened
    · rw [views]
      exact numbered.apart
  | @provided path launch d found free =>
    have views := (Publisher.finish_frame setup s.host (s.publisher.enter d.uri) d launch).1
    refine ⟨?_, numbered.named, ?_⟩
    · rw [views]
      exact numbered.opened
    · rw [views]
      exact numbered.apart
  | @finished name launch i d running =>
    have views := (Publisher.finish_frame setup s.host s.publisher d launch).1
    refine ⟨?_, numbered.named, ?_⟩
    · rw [views]
      exact numbered.opened
    · rw [views]
      exact numbered.apart
  | _ => exact ⟨numbered.opened, numbered.named, numbered.apart⟩

theorem shows_congr {p q : Publisher} (views : q.views = p.views) (uri : String) :
    q.Shows uri ↔ p.Shows uri := by
  rw [Publisher.Shows, Publisher.Shows, views]

/-- Forgetting a view takes at most its own document out of view. -/
theorem Numbered.shows_closeView (numbered : Numbered s) {name : String} {v : View}
    (known : Entries.get? name s.views = some v) {uri : String} (shown : s.publisher.Shows uri) :
    (s.publisher.closeView v).Shows uri ∨ uri = v.document.uri := by
  obtain ⟨w, member, rfl⟩ := shown
  by_cases same : w.number = v.number
  · rw [numbered.apart name v known w member same]
    exact .inr rfl
  · refine .inl ⟨w, List.mem_filter.mpr ⟨member, ?_⟩, rfl⟩
    simpa using same

/-- An inspection that ends stores at most the diagnostics of its own document. -/
theorem Housed.finish (housed : Housed s) {p : Publisher} {d : Document} (host : Host)
    (launch : Launch) (store : p.store = s.publisher.store) (views : p.views = s.publisher.views)
    (shown : d.uri ∉ p.closedInFlight → s.publisher.Shows d.uri) :
    ∀ uri ∈ Entries.keys (Publisher.finish setup host p d launch).2.2.store,
      (Publisher.finish setup host p d launch).2.2.Shows uri := by
  intro uri stored
  have same := (Publisher.finish_frame setup host p d launch).1
  refine (shows_congr (same.trans views) uri).mpr ?_
  rcases Publisher.finish_keys stored with before | ⟨rfl, unflagged⟩
  · exact housed.stored uri (store ▸ before)
  · exact shown unflagged

theorem Housed.move (housed : Housed s) (guarded : Guarded s) (permitted : Permitted setup s a)
    (move : Move setup s a c s') : Housed s' := by
  cases move with
  | still host opened => exact ⟨housed.stored, housed.inFlight⟩
  | opened d =>
    have more : ∀ uri, s.publisher.Shows uri →
        (s.publisher.openView ⟨s.nextView, d⟩).Shows uri := by
      rintro uri ⟨w, member, rfl⟩
      exact ⟨w, List.mem_append_left _ member, rfl⟩
    refine ⟨fun uri stored => more uri (housed.stored uri stored), fun uri running => ?_⟩
    exact (housed.inFlight uri running).imp_right (more uri)
  | forgotten known => exact permitted.elim
  | @closed name v known last =>
    obtain ⟨_, store, views, inFlight, flagged⟩ := Publisher.documentClosed_last last
    refine ⟨fun uri stored => ?_, fun uri running => ?_⟩
    · rw [store] at stored
      exact (shows_congr views uri).mpr (housed.stored uri (Entries.mem_keys_erase.mp stored).2)
    · rw [inFlight] at running
      refine (housed.inFlight uri running).imp (fun before => ?_) (shows_congr views uri).mpr
      exact (flagged uri).mpr (.inl before)
  | stored d ds => exact permitted.elim
  | erased d => exact permitted.elim
  | refused => exact ⟨housed.stored, housed.inFlight⟩
  | aborted free | abortedAtOnce free =>
    refine ⟨housed.stored, fun uri running => ?_⟩
    have same := guarded.release free uri
    exact (housed.inFlight uri (same.1.mp running)).imp_left same.2.mpr
  | @started name path d found free =>
    refine ⟨housed.stored, fun uri running => ?_⟩
    rcases Publisher.mem_inFlight_enter.mp running with rfl | before
    · exact .inr (permitted d found)
    · exact housed.inFlight uri before
  | @provided path launch d found free =>
    obtain ⟨views, inFlight, flagged⟩ :=
      Publisher.finish_frame setup s.host (s.publisher.enter d.uri) d launch
    rw [Publisher.release_enter] at inFlight flagged
    refine ⟨housed.finish s.host launch rfl rfl fun _ => permitted d found, fun uri running => ?_⟩
    rw [inFlight] at running
    have same := guarded.release free uri
    refine (housed.inFlight uri (same.1.mp running)).imp (fun before => ?_)
      (shows_congr views uri).mpr
    rw [flagged]
    exact same.2.mpr before
  | @finished name launch i d ending =>
    obtain ⟨views, inFlight, flagged⟩ := Publisher.finish_frame setup s.host s.publisher d launch
    have going := guarded.inFlight_of_waiting (runs_of_run? ending)
    -- Diagnostics are stored for an unflagged document in flight only, and that one is in view.
    refine ⟨housed.finish s.host launch rfl rfl fun unflagged => ?_, fun uri running => ?_⟩
    · exact (housed.inFlight d.uri going).resolve_left unflagged
    · rw [inFlight, Publisher.mem_inFlight_release] at running
      refine (housed.inFlight uri running.1).imp (fun before => ?_) (shows_congr views uri).mpr
      rw [flagged, Publisher.mem_closedInFlight_release]
      exact ⟨before, running.2⟩

/-- A view that is closed and reported leaves no diagnostics behind: either another view shows its
document, or the diagnostics are dropped and an inspection under way is flagged. -/
theorem Housed.close (housed : Housed s) (numbered : Numbered s) (name : String) :
    Housed (s.close setup name) := by
  cases known : Entries.get? name s.views with
  | none =>
    simp only [Session.close, after_cons, after_nil, step, withView, known]
    exact housed
  | some v =>
    have fewer : ∀ uri, s.publisher.Shows uri →
        (s.publisher.closeView v).Shows uri ∨ uri = v.document.uri :=
      fun _ => numbered.shows_closeView known
    simp only [Session.close, after_cons, after_nil, step, withView, known]
    cases shown : (s.publisher.closeView v).isShownElsewhere v with
    | true =>
      simp only [Publisher.documentClosed_shown shown]
      obtain ⟨w, member, _, same⟩ := Publisher.isShownElsewhere_iff.mp shown
      have kept : ∀ uri, s.publisher.Shows uri → (s.publisher.closeView v).Shows uri := by
        intro uri before
        rcases fewer uri before with still | rfl
        · exact still
        · exact ⟨w, member, same⟩
      refine ⟨fun uri stored => kept uri (housed.stored uri stored), fun uri running => ?_⟩
      exact (housed.inFlight uri running).imp_right (kept uri)
    | false =>
      -- Only the document of the view may go out of view; it is erased, and flagged if in flight.
      obtain ⟨_, store, views, inFlight, flagged⟩ := Publisher.documentClosed_last shown
      refine ⟨fun uri stored => ?_, fun uri running => ?_⟩
      · rw [store] at stored
        obtain ⟨other, before⟩ := Entries.mem_keys_erase.mp stored
        refine (shows_congr views uri).mpr ?_
        exact (fewer uri (housed.stored uri before)).resolve_right other
      · rw [inFlight] at running
        rw [flagged, shows_congr views]
        rcases housed.inFlight uri running with before | before
        · exact .inl (.inl before)
        · rcases fewer uri before with still | same
          · exact .inr still
          · exact .inl (.inr ⟨same, running⟩)

theorem orderly_invariant (orderly : Orderly setup s) : Guarded s ∧ Numbered s ∧ Housed s := by
  induction orderly with
  | fresh host => exact ⟨guarded_ofHost host, numbered_ofHost host, housed_ofHost host⟩
  | @step s a orderly permitted ih =>
    obtain ⟨guarded, numbered, housed⟩ := ih
    have move := step_move setup s a
    exact ⟨guarded.move move, numbered.move move, housed.move guarded permitted move⟩
  | @close s name orderly ih =>
    obtain ⟨guarded, numbered, housed⟩ := ih
    refine ⟨?_, ?_, housed.close numbered name⟩
    · exact after_induction Guarded (fun _ _ _ _ before move => before.move move) guarded _
    · exact after_induction Numbered (fun _ _ _ _ before move => before.move move) numbered _

/-- No diagnostics are orphaned: in every session of a host that keeps to its part, each stored
document is shown by an open view. -/
theorem shows_of_stored (orderly : Orderly setup s) {uri : String}
    (stored : uri ∈ Entries.keys s.publisher.store) : s.publisher.Shows uri :=
  (orderly_invariant orderly).2.2.stored uri stored

/-- Two views show a document, and the one that asked for its inspection is closed during it. -/
theorem shows_of_second_view :
    ∃ s, Orderly (.ofRoot (Path.ofText "/proj")) s ∧
      "file:///proj/lib/a.ex" ∈ Entries.keys s.publisher.store ∧
      s.publisher.Shows "file:///proj/lib/a.ex" := by
  let setup : Setup := .ofRoot (Path.ofText "/proj")
  let opened : Session := after setup (ofHost ⟨.chose none, none⟩)
    [.openView "v" "lib/a.ex", .openView "w" "lib/a.ex"]
  let closed : Session := ((opened.step setup (.start "r" "lib/a.ex")).1).close setup "v"
  let launch : Launch := .finished "\x7b\"issues\": []\x7d" "" (some 0)
  have found : Document.ofPath? Document.systemLinks setup.root "lib/a.ex" =
      some ⟨"lib/a.ex", "file:///proj/lib/a.ex"⟩ := by decide +kernel
  have shown : opened.publisher.Shows "file:///proj/lib/a.ex" := by decide +kernel
  have orderly : Orderly setup opened := .step (.step (.fresh _) trivial) trivial
  have permitted : Permitted setup opened (.start "r" "lib/a.ex") := by
    intro d other
    rw [found] at other
    cases other
    exact shown
  have finished : Orderly setup (closed.step setup (.finish "r" launch)).1 :=
    .step (.close (.step orderly permitted)) trivial
  have stored : "file:///proj/lib/a.ex" ∈
      Entries.keys (closed.step setup (.finish "r" launch)).1.publisher.store := by
    decide +kernel
  exact ⟨_, finished, stored, shows_of_stored finished stored⟩

end CredoAssistant.Session
