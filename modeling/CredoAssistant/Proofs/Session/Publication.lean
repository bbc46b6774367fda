import CredoAssistant.Proofs.Session.Guard

/-!
Which inspections publish. The flag of an inspection in flight stands for one fact of the session's
history: whether its document was reported as closed since the request. Together with the launch
this decides what the inspection returns and what it does to the store.
-/
namespace CredoAssistant.Session

variable {setup : Setup} {host : Host} {s s' : Session} {a : Step} {c : Option String}
  {i : Nat} {d : Document} {launch : Launch}

/-- An inspection under way goes on with its document or ends; one that has ended stays so. -/
theorem runs_move (move : Move setup s a c s') :
    (∀ (i : Nat) (d : Document), s.runs[i]? = some (.waiting d) →
      s'.runs[i]? = some (.waiting d) ∨ ∃ outcome, s'.runs[i]? = some (.ended outcome)) ∧
    ∀ (i : Nat) (outcome : Except Interruption (Option (List Diagnostic))),
      s.runs[i]? = some (.ended outcome) → s'.runs[i]? = some (.ended outcome) := by
  have kept (name : String) (p : Publisher) (progress : Progress) {i : Nat} {r : Progress}
      (found : s.runs[i]? = some r) : (s.keepRun name p progress).runs[i]? = some r := by
    have bound := (List.getElem?_eq_some_iff.mp found).1
    rw [← found]
    exact List.getElem?_append_left bound
  cases move with
  | refused | aborted | started =>
    exact ⟨fun _ _ found => .inl (kept _ _ _ found), fun _ _ found => kept _ _ _ found⟩
  | @finished name launch j e running =>
    have ends := runs_of_run? running
    have bound := (List.getElem?_eq_some_iff.mp ends).1
    refine ⟨fun i d found => ?_, fun i outcome found => ?_⟩
    · by_cases same : j = i
      · subst same
        exact .inr ⟨_, List.getElem?_set_self bound⟩
      · exact .inl ((List.getElem?_set_ne same).trans found)
    · by_cases same : j = i
      · subst same
        rw [ends] at found
        cases found
      · exact (List.getElem?_set_ne same).trans found
  | _ => exact ⟨fun _ _ found => .inl found, fun _ _ found => found⟩

theorem ended_after {outcome : Except Interruption (Option (List Diagnostic))}
    (ended : s.runs[i]? = some (.ended outcome)) (steps : List Step) :
    (after setup s steps).runs[i]? = some (.ended outcome) :=
  after_induction (fun t => t.runs[i]? = some (.ended outcome))
    (fun _ _ _ _ ended move => (runs_move move).2 i outcome ended) ended steps

/-- No two inspections under way have one uri. -/
theorem Guarded.eq_of_uri (guarded : Guarded s) {j : Nat} {e : Document}
    (first : s.runs[i]? = some (.waiting d)) (second : s.runs[j]? = some (.waiting e))
    (same : d.uri = e.uri) : i = j := by
  by_contra apart
  -- With the second one ended, the first one is still left among those under way.
  obtain ⟨before, after, whole, ended⟩ := filterMap_set_ended second (.ok none)
  have member : d ∈ before ++ after := by
    rw [← ended]
    refine List.mem_filterMap.mpr ⟨.waiting d, List.mem_of_getElem? (i := i) ?_, rfl⟩
    exact (List.getElem?_set_ne (Ne.symm apart)).trans first
  have unique := guarded.one_each
  simp only [pending, whole, List.map_append, List.map_cons] at unique
  refine (List.nodup_cons.mp (List.nodup_middle.mp unique)).1 ?_
  rw [← same, ← List.map_append]
  exact List.mem_map_of_mem member

/-- A step flags an inspection that stays under way exactly when it reports its document as closed,
and takes no flag from it. -/
theorem Guarded.flag_move (guarded : Guarded s) (move : Move setup s a c s')
    (running : s.runs[i]? = some (.waiting d)) (still : s'.runs[i]? = some (.waiting d)) :
    d.uri ∈ s'.publisher.closedInFlight ↔ d.uri ∈ s.publisher.closedInFlight ∨ c = some d.uri := by
  have inFlight := guarded.inFlight_of_waiting running
  cases move with
  | closed known last =>
    rw [(Publisher.documentClosed_last last).2.2.2.2 d.uri, Option.some.injEq]
    refine or_congr_right ⟨fun both => both.1.symm, fun same => ⟨same.symm, inFlight⟩⟩
  | aborted free | abortedAtOnce free => exact (guarded.release free d.uri).2.trans (by simp)
  | @provided path launch e found free =>
    have flagged := (Publisher.finish_frame setup s.host (s.publisher.enter e.uri) e launch).2.2
    rw [Publisher.release_enter] at flagged
    rw [flagged]
    exact (guarded.release free d.uri).2.trans (by simp)
  | @finished name launch j e ending =>
    have flagged := (Publisher.finish_frame setup s.host s.publisher e launch).2.2
    -- The one that ends is another one, so the release leaves the flag of `d` alone.
    have apart : d.uri ≠ e.uri := by
      intro same
      have ends := runs_of_run? ending
      obtain rfl := guarded.eq_of_uri running ends same
      have bound := (List.getElem?_eq_some_iff.mp ends).1
      rw [List.getElem?_set_self bound] at still
      cases still
    rw [flagged, Publisher.mem_closedInFlight_release]
    simp [apart]
  | _ => exact (or_iff_left (by simp)).symm

/-- The flag of an inspection that stays under way says whether its document was reported as closed
meanwhile. -/
theorem flag_after (guarded : Guarded s) (running : s.runs[i]? = some (.waiting d))
    (steps : List Step) (still : (after setup s steps).runs[i]? = some (.waiting d)) :
    d.uri ∈ (after setup s steps).publisher.closedInFlight ↔
      d.uri ∈ s.publisher.closedInFlight ∨ d.uri ∈ closings setup s steps := by
  induction steps generalizing s with
  | nil => simp [closings]
  | cons a rest ih =>
    have move := step_move setup s a
    -- It is under way after the first step too, as one that has ended stays so.
    have going : (s.step setup a).1.runs[i]? = some (.waiting d) := by
      rcases (runs_move move).1 i d running with going | ⟨outcome, ended⟩
      · exact going
      · rw [after_cons, ended_after ended rest] at still
        cases still
    rw [after_cons, ih (guarded.move move) going still, guarded.flag_move move running going]
    simp only [closings, List.mem_append, Option.mem_toList, or_assoc]

/-- What an inspection of the document of `uri` makes of the end of its launch: its result, and the
store it leaves in place of the one it met. `closed` holds the uris that were reported as closed
between its request and its end. -/
structure Settled (setup : Setup) (uri : String) (closed : List String) (launch : Launch)
    (met left : Store) (result : Option (List Diagnostic)) : Prop where
  published_iff : (∃ ds, result = some ds) ↔ uri ∉ closed ∧ launch.IsMappable setup.stack
  published : ∀ ds, result = some ds →
    Entries.get? uri left = some ds ∧
      ∃ stdout code issues, launch = .finished stdout "" code ∧
        Report.read setup.stack stdout = .ok issues ∧ Diagnostic.ofIssues issues = .ok ds ∧
        List.Forall₂ (fun i d => Diagnostic.ofIssue i = .ok d) issues ds
  discarded : uri ∈ closed → result = none ∧ left = met
  failed : uri ∉ closed → ¬ launch.IsMappable setup.stack → result = none ∧
    (setup.settings.clearOnFailure = true → Entries.get? uri left = none) ∧
      (setup.settings.clearOnFailure = false → left = met)
  others : ∀ other, other ≠ uri → Entries.get? other left = Entries.get? other met

/-- The end of a launch settles an inspection whose flag tells whether its document was closed. -/
theorem settled_finish {p : Publisher} {closed : List String} {result : Option (List Diagnostic)}
    (flag : d.uri ∈ p.closedInFlight ↔ d.uri ∈ closed)
    (ended : (Publisher.finish setup host p d launch).1 = .ok result) :
    Settled setup d.uri closed launch p.store
      (Publisher.finish setup host p d launch).2.2.store result := by
  by_cases flagged : d.uri ∈ p.closedInFlight
  · obtain ⟨rfl, store⟩ := Publisher.finish_flagged flagged ended
    have shut := flag.mp flagged
    rw [store]
    refine ⟨⟨?_, fun both => absurd shut both.1⟩, ?_, fun _ => ⟨rfl, rfl⟩,
      fun apart => absurd shut apart, fun _ _ => rfl⟩
    · rintro ⟨ds, same⟩
      cases same
    · rintro ds same
      cases same
  · have apart := flag.not.mp flagged
    by_cases mappable : launch.IsMappable setup.stack
    · obtain ⟨ds, reported⟩ := Launch.isMappable_iff.mp mappable
      obtain ⟨rfl, store⟩ := Publisher.finish_reported flagged ended reported
      rw [store]
      refine ⟨⟨fun _ => ⟨apart, mappable⟩, fun _ => ⟨ds, rfl⟩⟩, ?_, fun shut => absurd shut apart,
        fun _ failed => absurd mappable failed, fun other ne => Entries.get?_set_ne ne.symm _ _⟩
      rintro es same
      cases same
      obtain ⟨stdout, code, issues, finished, read, mapped⟩ := reported
      exact ⟨Entries.get?_set_self _ _ _, stdout, code, issues, finished, read, mapped,
        Diagnostic.ofIssues_eq_ok_iff.mp mapped⟩
    · have failed := Launch.isMappable_iff.not.mp mappable
      obtain ⟨rfl, store⟩ := Publisher.finish_failed flagged ended failed
      rw [store, Publisher.discard]
      refine ⟨⟨?_, fun both => absurd both.2 mappable⟩, ?_, fun shut => absurd shut apart,
        fun _ _ => ⟨rfl, fun clears => ?_, fun keeps => ?_⟩, fun other ne => ?_⟩
      · rintro ⟨ds, same⟩
        cases same
      · rintro ds same
        cases same
      · rw [if_pos clears]
        exact Entries.get?_erase_self _ _
      · simp [keeps]
      · split
        · exact Entries.get?_erase_ne ne.symm _
        · rfl

/-- An inspection that a session accepted and that ended without interruption, at once or after
further steps: the uri of its document, the uris reported as closed in between, its launch, the
store that its end met and the one it left, and its result. -/
inductive Concluded (setup : Setup) (host : Host) :
    String → List String → Launch → Store → Store → Option (List Diagnostic) → Prop
  | atOnce {before : List Step} {path : String} {launch : Launch} {d : Document} {s : Session}
      {result : Option (List Diagnostic)} (reached : after setup (ofHost host) before = s)
      (found : Document.ofPath? Document.systemLinks setup.root path = some d)
      (accepted : (s.step setup (.provide path launch)).2.requests ≠ [])
      (ended : (s.step setup (.provide path launch)).2.answer = .ok (.published result)) :
      Concluded setup host d.uri [] launch s.publisher.store
        (s.step setup (.provide path launch)).1.publisher.store result
  | later {before between : List Step} {name path : String} {launch : Launch} {d : Document}
      {s t : Session} {result : Option (List Diagnostic)}
      (reached : after setup (ofHost host) before = s)
      (found : Document.ofPath? Document.systemLinks setup.root path = some d)
      (accepted : (s.step setup (.start name path)).2.answer = .ok .waiting)
      (meanwhile : after setup (s.step setup (.start name path)).1 between = t)
      (running : t.run? name = some (s.runs.length, .waiting d))
      (ended : (t.step setup (.finish name launch)).2.answer = .ok (.ended result)) :
      Concluded setup host d.uri (closings setup (s.step setup (.start name path)).1 between) launch
        t.publisher.store (t.step setup (.finish name launch)).1.publisher.store result

theorem started_of_waiting {name path : String}
    (found : Document.ofPath? Document.systemLinks setup.root path = some d)
    (accepted : (s.step setup (.start name path)).2.answer = .ok .waiting) :
    d.uri ∉ s.publisher.inFlight ∧
      (s.step setup (.start name path)).1 =
        s.keepRun name (s.publisher.enter d.uri) (.waiting d) := by
  simp only [step, withDocument, found, startRun] at accepted ⊢
  obtain ⟨_, trace, h⟩ | ⟨free, i, trace, h⟩ | ⟨free, q, trace, h⟩ :=
    Publisher.request_cases setup s.publisher d
  · rw [h] at accepted
    cases accepted
  · rw [h] at accepted
    cases accepted
  · rw [h]
    exact ⟨free, rfl⟩

theorem provided_of_requests {path : String}
    (found : Document.ofPath? Document.systemLinks setup.root path = some d)
    (accepted : (s.step setup (.provide path launch)).2.requests ≠ []) :
    d.uri ∉ s.publisher.inFlight ∧
      (s.step setup (.provide path launch)).1.publisher =
        (Publisher.finish setup s.host (s.publisher.enter d.uri) d launch).2.2 ∧
      (s.step setup (.provide path launch)).2.answer = answerOf .published
        (Publisher.finish setup s.host (s.publisher.enter d.uri) d launch).1 := by
  simp only [step, withDocument, found, provide] at accepted ⊢
  obtain ⟨_, trace, h⟩ | ⟨free, i, trace, h⟩ | ⟨free, q, trace, h⟩ :=
    Publisher.request_cases setup s.publisher d
  · rw [h] at accepted
    exact absurd rfl accepted
  · rw [h] at accepted
    exact absurd rfl accepted
  · rw [h]
    exact ⟨free, rfl, rfl⟩

theorem answerOf_eq_ok {α : Type} {f : α → Answer} (injective : Function.Injective f)
    {outcome : Except Interruption α} {result : α}
    (answered : answerOf f outcome = .ok (f result)) : outcome = .ok result := by
  cases outcome with
  | error i => cases answered
  | ok a => rw [injective (Except.ok.inj answered)]

/-- Every inspection that was accepted and not interrupted publishes the report of its launch unless
its document was closed meanwhile, and otherwise leaves nothing new. -/
theorem settled_of_concluded {uri : String} {closed : List String} {met left : Store}
    {result : Option (List Diagnostic)}
    (concluded : Concluded setup host uri closed launch met left result) :
    Settled setup uri closed launch met left result := by
  cases concluded with
  | @atOnce before path launch d s result reached found accepted ended =>
    obtain ⟨free, publisher, answer⟩ := provided_of_requests found accepted
    have guarded := reached ▸ guarded_after setup host before
    rw [publisher]
    have outcome := answerOf_eq_ok (fun _ _ => Answer.published.inj) (answer ▸ ended)
    refine settled_finish (p := s.publisher.enter d.uri) ?_ outcome
    refine iff_of_false (fun flagged => ?_) List.not_mem_nil
    exact free (guarded.flagged d.uri flagged)
  | @later before between name path launch d s t result reached found accepted meanwhile running
      ended =>
    obtain ⟨free, begun⟩ := started_of_waiting found accepted
    have guarded : Guarded s := reached ▸ guarded_after setup host before
    have going := guarded.move (step_move setup s (.start name path))
    have waiting :
        (s.step setup (.start name path)).1.runs[s.runs.length]? = some (.waiting d) := by
      rw [begun]
      exact List.getElem?_concat_length
    have unflagged : d.uri ∉ (s.step setup (.start name path)).1.publisher.closedInFlight := by
      rw [begun]
      exact fun flagged => free (guarded.flagged d.uri flagged)
    have flag := flag_after going waiting between (meanwhile ▸ runs_of_run? running)
    rw [meanwhile, or_iff_right unflagged] at flag
    simp only [step, finishRun, running] at ended ⊢
    exact settled_finish flag (answerOf_eq_ok (fun _ _ => Answer.ended.inj) ended)

/-- A document that is closed and opened again while it is inspected stays without diagnostics. -/
theorem settled_reopened :
    Concluded (.ofRoot (Path.ofText "/proj")) ⟨.chose none, none⟩ "file:///proj/lib/a.ex"
        ["file:///proj/lib/a.ex"] (.finished "\x7b\"issues\": []\x7d" "" (some 0)) [] [] none ∧
      Settled (.ofRoot (Path.ofText "/proj")) "file:///proj/lib/a.ex" ["file:///proj/lib/a.ex"]
        (.finished "\x7b\"issues\": []\x7d" "" (some 0)) [] [] none := by
  let setup : Setup := .ofRoot (Path.ofText "/proj")
  let d : Document := ⟨"lib/a.ex", "file:///proj/lib/a.ex"⟩
  let launch : Launch := .finished "\x7b\"issues\": []\x7d" "" (some 0)
  let between : List Step := [.closeView "v", .documentClosed "v", .openView "w" "lib/a.ex"]
  obtain ⟨s, reached⟩ : ∃ s,
      after setup (ofHost ⟨.chose none, none⟩) [.openView "v" "lib/a.ex"] = s := ⟨_, rfl⟩
  obtain ⟨t, meanwhile⟩ : ∃ t,
      after setup (s.step setup (.start "r" "lib/a.ex")).1 between = t := ⟨_, rfl⟩
  have found : Document.ofPath? Document.systemLinks setup.root "lib/a.ex" = some d := by
    decide +kernel
  have accepted : (s.step setup (.start "r" "lib/a.ex")).2.answer = .ok .waiting := by
    subst reached
    decide +kernel
  have running : t.run? "r" = some (s.runs.length, .waiting d) := by
    subst meanwhile reached
    decide +kernel
  have ended : (t.step setup (.finish "r" launch)).2.answer = .ok (.ended none) := by
    subst meanwhile reached
    decide +kernel
  have closed : closings setup (s.step setup (.start "r" "lib/a.ex")).1 between = [d.uri] := by
    subst reached
    decide +kernel
  have met : t.publisher.store = [] := by
    subst meanwhile reached
    decide +kernel
  have left : (t.step setup (.finish "r" launch)).1.publisher.store = [] := by
    subst meanwhile reached
    decide +kernel
  have concluded := Concluded.later reached found accepted meanwhile running ended
  rw [closed, met, left] at concluded
  exact ⟨concluded, settled_of_concluded concluded⟩

end CredoAssistant.Session
