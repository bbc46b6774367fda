import CredoAssistant.Proofs.Session.Orphans
import Mathlib.Logic.Function.Basic

/-!
Which document a step is about. Views and inspections go by names, so this takes the names bound by
the steps before it. Every session keeps its names in step with them.
-/
namespace CredoAssistant.Session

/-- The uri of a path, if it has one. -/
def uri? (setup : Setup) (path : String) : Option String :=
  (Document.ofPath? Document.systemLinks setup.root path).map Document.uri

/-- The uris that the names of views and inspections stand for. -/
structure Bindings where
  views : String → Option String
  runs : String → Option String

namespace Bindings

/-- No name is bound. -/
def none : Bindings := ⟨fun _ => .none, fun _ => .none⟩

/-- A view or an inspection of a path binds its name anew; a path without a uri binds nothing. -/
def after (setup : Setup) (b : Bindings) : Step → Bindings
  | .openView name path =>
    (uri? setup path).elim b fun uri => { b with views := Function.update b.views name (some uri) }
  | .start name path =>
    (uri? setup path).elim b fun uri => { b with runs := Function.update b.runs name (some uri) }
  | _ => b

/-- The uri of the document that a step is about, if it is about one. -/
def concern (setup : Setup) (b : Bindings) : Step → Option String
  | .openView _ path | .provide path _ | .start _ path | .put path _ | .remove path | .look path =>
    uri? setup path
  | .closeView name | .documentClosed name => b.views name
  | .finish name _ => b.runs name
  | .listViews | .openSettings | .setNotifier _ | .setSettingsFailure _ => .none

end Bindings

variable {setup : Setup} {s : Session} {b : Bindings} {name other path : String} {d : Document}

/-- The inspection of a name, wherever it stands. -/
def progress? (s : Session) (name : String) : Option Progress := (s.run? name).map Prod.snd

/-- Named inspections are on record, each under a position of its own. -/
structure Filed (s : Session) : Prop where
  recorded : ∀ name i, Entries.get? name s.runNames = some i → i < s.runs.length
  apart : ∀ name other i, Entries.get? name s.runNames = some i →
    Entries.get? other s.runNames = some i → name = other

theorem progress?_congr {t : Session} (runs : t.runs = s.runs) (names : t.runNames = s.runNames)
    (name : String) : t.progress? name = s.progress? name := by
  simp only [progress?, run?, runs, names]

theorem Filed.congr {t : Session} (filed : Filed s) (runs : t.runs.length = s.runs.length)
    (names : t.runNames = s.runNames) : Filed t :=
  ⟨by rw [runs, names]; exact filed.recorded, by rw [names]; exact filed.apart⟩

theorem Filed.keepRun (filed : Filed s) (name : String) (p : Publisher) (progress : Progress) :
    Filed (s.keepRun name p progress) := by
  have found : ∀ other i, Entries.get? other (s.keepRun name p progress).runNames = some i →
      (other = name ∧ i = s.runs.length) ∨ Entries.get? other s.runNames = some i := by
    intro other i known
    by_cases same : name = other
    · subst same
      rw [Session.keepRun, Entries.get?_set_self] at known
      exact .inl ⟨rfl, (Option.some.inj known).symm⟩
    · rw [Session.keepRun, Entries.get?_set_ne same] at known
      exact .inr known
  have length : (s.keepRun name p progress).runs.length = s.runs.length + 1 := by
    simp [Session.keepRun]
  refine ⟨fun other i known => ?_, fun one other i known known' => ?_⟩
  · rw [length]
    rcases found other i known with ⟨_, rfl⟩ | before
    · exact Nat.lt_succ_self _
    · exact Nat.lt_succ_of_lt (filed.recorded other i before)
  · rcases found one i known with ⟨rfl, rfl⟩ | before
    · rcases found other _ known' with ⟨rfl, _⟩ | before'
      · rfl
      · exact absurd (filed.recorded other _ before') (Nat.lt_irrefl _)
    · rcases found other i known' with ⟨_, rfl⟩ | before'
      · exact absurd (filed.recorded one _ before) (Nat.lt_irrefl _)
      · exact filed.apart one other i before before'

/-- An inspection that is kept goes by its name, and the others by theirs. -/
theorem Filed.progress?_keepRun (filed : Filed s) (name : String) (p : Publisher)
    (progress : Progress) (other : String) :
    (s.keepRun name p progress).progress? other =
      if other = name then some progress else s.progress? other := by
  split
  · subst other
    simp [progress?, run?, Session.keepRun, Entries.get?_set_self]
  · rename_i apart
    simp only [progress?, run?, Session.keepRun, Entries.get?_set_ne (Ne.symm apart)]
    cases known : Entries.get? other s.runNames with
    | none => rfl
    | some i =>
      simp only [Option.bind_some]
      rw [List.getElem?_append_left (filed.recorded other i known)]

theorem entry_of_run? {i : Nat} {progress : Progress} (named : s.run? name = some (i, progress)) :
    Entries.get? name s.runNames = some i := by
  simp only [run?, Option.bind_eq_some_iff, Option.map_eq_some_iff] at named
  obtain ⟨j, entry, _, _, same⟩ := named
  exact entry.trans (congrArg some (congrArg Prod.fst same))

/-- The end of an inspection is seen under its name and under no other. -/
theorem Filed.progress?_set (filed : Filed s) {i : Nat} {before : Progress}
    (named : s.run? name = some (i, before)) (p : Publisher) (progress : Progress)
    (other : String) :
    progress? { s with publisher := p, runs := s.runs.set i progress } other =
      if other = name then some progress else s.progress? other := by
  have entry := entry_of_run? named
  split
  · subst other
    simp [progress?, run?, entry, filed.recorded name i entry]
  · rename_i apart
    simp only [progress?, run?]
    cases known : Entries.get? other s.runNames with
    | none => rfl
    | some j =>
      have elsewhere : i ≠ j := by
        rintro rfl
        exact apart (filed.apart other name i known entry)
      simp only [Option.bind_some]
      rw [List.getElem?_set_ne elsewhere]

theorem progress?_eq_some {progress : Progress} (known : s.progress? name = some progress) :
    ∃ i, s.run? name = some (i, progress) := by
  obtain ⟨⟨i, _⟩, run, rfl⟩ := Option.map_eq_some_iff.mp known
  exact ⟨i, run⟩

/-- What comes of a request: an inspection under way, or one that has ended at once. -/
theorem startRun_cases (setup : Setup) (s : Session) (name : String) (d : Document) :
    ∃ progress, (s.startRun setup name d).1 =
        s.keepRun name (Publisher.request setup s.publisher d).2.2 progress ∧
      ∀ e, progress = .waiting e → e = d := by
  unfold startRun
  obtain ⟨_, trace, h⟩ | ⟨_, i, trace, h⟩ | ⟨_, request, trace, h⟩ :=
    Publisher.request_cases setup s.publisher d
  · rw [h]
    exact ⟨_, rfl, nofun⟩
  · rw [h]
    exact ⟨_, rfl, nofun⟩
  · rw [h]
    exact ⟨_, rfl, fun e same => (Progress.waiting.inj same).symm⟩

/-- The names of a session stand for the uris that the steps have bound them to. -/
structure Bound (b : Bindings) (s : Session) : Prop where
  numbered : Numbered s
  filed : Filed s
  views : ∀ name, (Entries.get? name s.views).map (fun v => v.document.uri) = b.views name
  runs : ∀ name, s.progress? name = none ↔ b.runs name = none
  waiting : ∀ name d, s.progress? name = some (.waiting d) → b.runs name = some d.uri

theorem bound_ofHost (host : Host) : Bound .none (ofHost host) := by
  refine ⟨numbered_ofHost host, ⟨?_, ?_⟩, fun name => rfl, fun name => ?_, ?_⟩
  · rintro name i known
    cases known
  · rintro name other i known
    cases known
  · simp [progress?, run?, ofHost, Bindings.none]
  · rintro name d known
    cases known

/-- A step that leaves the names alone. -/
theorem Bound.congr {t : Session} (bound : Bound b s) (numbered : Numbered t)
    (views : t.views = s.views) (runs : t.runs = s.runs) (names : t.runNames = s.runNames) :
    Bound b t := by
  refine ⟨numbered, bound.filed.congr (by rw [runs]) names, ?_, ?_, ?_⟩
  · rw [views]
    exact bound.views
  · intro name
    rw [progress?_congr runs names]
    exact bound.runs name
  · intro name d
    rw [progress?_congr runs names]
    exact bound.waiting name d

/-- Every step binds the names that it says. -/
theorem Bound.step (setup : Setup) (bound : Bound b s) (a : Step) :
    Bound (b.after setup a) (s.step setup a).1 := by
  have move := step_move setup s a
  have numbered := bound.numbered.move move
  generalize next : (s.step setup a).1 = s' at move numbered ⊢
  generalize s.closing a (s.step setup a).2 = c at move
  cases a with
  | openView name path =>
    subst next
    simp only [Session.step, withDocument, Bindings.after, uri?] at numbered ⊢
    cases found : Document.ofPath? Document.systemLinks setup.root path with
    | none => exact bound
    | some d =>
      simp only [found] at numbered
      refine ⟨numbered, bound.filed.congr rfl rfl, fun other => ?_, bound.runs, bound.waiting⟩
      by_cases same : name = other
      · subst same
        simp [Entries.get?_set_self]
      · simp [Entries.get?_set_ne same, Function.update_of_ne (Ne.symm same), bound.views other]
  | start name path =>
    subst next
    simp only [Session.step, withDocument, Bindings.after, uri?] at numbered ⊢
    cases found : Document.ofPath? Document.systemLinks setup.root path with
    | none => exact bound
    | some d =>
      obtain ⟨progress, kept, own⟩ := startRun_cases setup s name d
      simp only [found, kept] at numbered ⊢
      have known := bound.filed.progress?_keepRun name (Publisher.request setup s.publisher d).2.2
        progress
      refine ⟨numbered, bound.filed.keepRun .., bound.views, fun other => ?_, fun other e => ?_⟩
      · rw [known other]
        by_cases same : other = name
        · simp [same]
        · simpa [same, Function.update_of_ne same] using bound.runs other
      · rw [known other]
        by_cases same : other = name
        · rw [if_pos same, Option.some.injEq]
          intro waiting
          simp [same, own e waiting]
        · simpa [same, Function.update_of_ne same] using bound.waiting other e
  | finish name launch =>
    subst next
    simp only [Session.step, Bindings.after, finishRun] at numbered ⊢
    split
    · exact bound
    · exact bound
    · rename_i i d running
      simp only [running] at numbered
      have known := bound.filed.progress?_set running
        (Publisher.finish setup s.host s.publisher d launch).2.2
        (.ended (Publisher.finish setup s.host s.publisher d launch).1)
      refine ⟨numbered, bound.filed.congr (List.length_set ..) rfl, bound.views, fun other => ?_,
        fun other e => ?_⟩
      · rw [known other]
        by_cases same : other = name
        · have named : s.progress? name = some (.waiting d) :=
            congrArg (Option.map Prod.snd) running
          rw [if_pos same, same, bound.waiting name d named]
          simp
        · rw [if_neg same]
          exact bound.runs other
      · rw [known other]
        by_cases same : other = name
        · simp [same]
        · rw [if_neg same]
          exact bound.waiting other e
  | closeView | documentClosed | provide | put | remove | look | listViews | openSettings
  | setNotifier | setSettingsFailure =>
    refine bound.congr numbered ?_ ?_ ?_ <;> cases move <;> rfl

/-- Wherever steps lead, the names are bound. -/
theorem Bound.after (bound : Bound b s) (setup : Setup) (steps : List Step) :
    ∃ b', Bound b' (Session.after setup s steps) := by
  induction steps generalizing b s with
  | nil => exact ⟨b, bound⟩
  | cons a rest ih => exact ih (bound.step setup a)

end CredoAssistant.Session
