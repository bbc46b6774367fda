import CredoAssistant.Proofs.Publisher.Locality
import CredoAssistant.Proofs.Session.Bindings
import CredoAssistant.Proofs.Session.Renumbering

/-!
Sessions that are alike in all that concerns one document. They agree on what the publisher holds of
it, on its views up to their numbers, and on its inspections by name. A step about the document has
the same reply in both and keeps them alike; so does, on one side alone, a step about another one.
-/
namespace CredoAssistant.Session

variable {setup : Setup} {uri other : String} {b c : Bindings} {s t : Session} {a : Step}
  {name path : String} {d : Document} {launch : Launch} {p q : Publisher} {progress : Progress}

/-- The names that stand for `uri`, and those that stand for nothing, do so in both. -/
def Follows (uri : String) (f g : String → Option String) : Prop :=
  ∀ name, f name = some uri ∨ f name = none → g name = f name

theorem Follows.update_left {f g : String → Option String} (follows : Follows uri f g)
    (apart : other ≠ uri) (name : String) :
    Follows uri (Function.update f name (some other)) g := by
  intro x about
  by_cases same : x = name
  · subst same
    simp [apart] at about
  · rw [Function.update_of_ne same] at about ⊢
    exact follows x about

theorem Follows.update_both {f g : String → Option String} (follows : Follows uri f g)
    (name : String) (bound : Option String) :
    Follows uri (Function.update f name bound) (Function.update g name bound) := by
  intro x about
  by_cases same : x = name
  · subst same
    simp
  · rw [Function.update_of_ne same] at about ⊢
    rw [Function.update_of_ne same]
    exact follows x about

/-- Two sessions, their names bound as `b` and `c` say, are alike in all that concerns `uri`. -/
structure Alike (uri : String) (b c : Bindings) (s t : Session) : Prop where
  host : t.host = s.host
  publisher : Publisher.Agrees uri s.publisher t.publisher
  views : ∃ m, Mirrors uri m s t
  runs : ∀ name, b.runs name = some uri → t.progress? name = s.progress? name
  viewNames : Follows uri b.views c.views
  runNames : Follows uri b.runs c.runs

namespace Alike

theorem refl (bound : Bound b s) (uri : String) : Alike uri b b s s :=
  ⟨rfl, .refl uri _, ⟨_, .refl bound.numbered uri⟩, fun _ _ => rfl, fun _ _ => rfl, fun _ _ => rfl⟩

theorem concern (alike : Alike uri b c s t)
    (about : b.concern setup a = some uri ∨ b.concern setup a = none) :
    c.concern setup a = b.concern setup a := by
  cases a with
  | closeView name | documentClosed name => exact alike.viewNames name about
  | finish name launch => exact alike.runNames name about
  | _ => rfl

theorem views_of_unmoved {s' t' : Session} (alike : Alike uri b c s t) (left : Unmoved s s')
    (right : Unmoved t t') : ∃ m, Mirrors uri m s' t' := by
  obtain ⟨m, mirrors⟩ := alike.views
  exact ⟨m, mirrors.congr left right⟩

/-! Changes of the publisher that leave the open views alone. -/

theorem publisher_left (alike : Alike uri b c s t) (views : p.views = s.publisher.views)
    (agrees : Publisher.Agrees uri p s.publisher) : Alike uri b c { s with publisher := p } t :=
  ⟨alike.host, agrees.trans alike.publisher,
    alike.views_of_unmoved ⟨views, rfl, rfl⟩ ⟨rfl, rfl, rfl⟩, alike.runs, alike.viewNames,
    alike.runNames⟩

theorem publisher_both (alike : Alike uri b c s t) (views : p.views = s.publisher.views)
    (views' : q.views = t.publisher.views) (agrees : Publisher.Agrees uri p q) :
    Alike uri b c { s with publisher := p } { t with publisher := q } :=
  ⟨alike.host, agrees, alike.views_of_unmoved ⟨views, rfl, rfl⟩ ⟨views', rfl, rfl⟩, alike.runs,
    alike.viewNames, alike.runNames⟩

/-! Inspections that are asked for, and those that end. -/

theorem keepRun_left (alike : Alike uri b c s t) (filed : Filed s)
    (views : p.views = s.publisher.views) (agrees : Publisher.Agrees uri p s.publisher)
    (apart : other ≠ uri) :
    Alike uri { b with runs := Function.update b.runs name (some other) } c
      (s.keepRun name p progress) t := by
  refine ⟨alike.host, agrees.trans alike.publisher,
    alike.views_of_unmoved ⟨views, rfl, rfl⟩ ⟨rfl, rfl, rfl⟩, fun x about => ?_, alike.viewNames,
    alike.runNames.update_left apart name⟩
  have elsewhere : x ≠ name := by
    rintro rfl
    simp [apart] at about
  rw [filed.progress?_keepRun name p progress x, if_neg elsewhere]
  exact alike.runs x ((Function.update_of_ne elsewhere ..).symm.trans about)

theorem keepRun_both (alike : Alike uri b c s t) (filed : Filed s) (filed' : Filed t)
    (views : p.views = s.publisher.views) (views' : q.views = t.publisher.views)
    (agrees : Publisher.Agrees uri p q) :
    Alike uri { b with runs := Function.update b.runs name (some uri) }
      { c with runs := Function.update c.runs name (some uri) } (s.keepRun name p progress)
      (t.keepRun name q progress) := by
  refine ⟨alike.host, agrees, alike.views_of_unmoved ⟨views, rfl, rfl⟩ ⟨views', rfl, rfl⟩,
    fun x about => ?_, alike.viewNames, alike.runNames.update_both name _⟩
  rw [filed.progress?_keepRun name p progress x, filed'.progress?_keepRun name q progress x]
  by_cases same : x = name
  · rw [if_pos same, if_pos same]
  · rw [if_neg same, if_neg same]
    exact alike.runs x ((Function.update_of_ne same ..).symm.trans about)

theorem ended_left {i : Nat} {before : Progress} (alike : Alike uri b c s t) (filed : Filed s)
    (running : s.run? name = some (i, before)) (views : p.views = s.publisher.views)
    (agrees : Publisher.Agrees uri p s.publisher) (apart : b.runs name ≠ some uri) :
    Alike uri b c { s with publisher := p, runs := s.runs.set i progress } t := by
  refine ⟨alike.host, agrees.trans alike.publisher,
    alike.views_of_unmoved ⟨views, rfl, rfl⟩ ⟨rfl, rfl, rfl⟩, fun x about => ?_, alike.viewNames,
    alike.runNames⟩
  have elsewhere : x ≠ name := by
    rintro rfl
    exact apart about
  rw [filed.progress?_set running p progress x, if_neg elsewhere]
  exact alike.runs x about

theorem ended_both {i j : Nat} {before before' : Progress} (alike : Alike uri b c s t)
    (filed : Filed s) (filed' : Filed t) (running : s.run? name = some (i, before))
    (running' : t.run? name = some (j, before')) (views : p.views = s.publisher.views)
    (views' : q.views = t.publisher.views) (agrees : Publisher.Agrees uri p q) :
    Alike uri b c { s with publisher := p, runs := s.runs.set i progress }
      { t with publisher := q, runs := t.runs.set j progress } := by
  refine ⟨alike.host, agrees, alike.views_of_unmoved ⟨views, rfl, rfl⟩ ⟨views', rfl, rfl⟩,
    fun x about => ?_, alike.viewNames, alike.runNames⟩
  rw [filed.progress?_set running p progress x, filed'.progress?_set running' q progress x,
    alike.runs x about]

end Alike

/-! ### Requests and ends, seen from their document and from the others -/

theorem provide_cases (setup : Setup) (s : Session) (d : Document) (launch : Launch) :
    ∃ p, (s.provide setup d launch).1 = { s with publisher := p } ∧
      p.views = s.publisher.views ∧ ∀ uri, d.uri ≠ uri → Publisher.Agrees uri p s.publisher := by
  unfold provide
  have views := Publisher.request_views setup s.publisher d
  have others := fun uri => @Publisher.agrees_request_ne d uri setup s.publisher
  generalize Publisher.request setup s.publisher d = requested at views others ⊢
  obtain ⟨admission, trace, p⟩ := requested
  cases admission with
  | busy => exact ⟨p, rfl, views, others⟩
  | interrupted i => exact ⟨p, rfl, views, others⟩
  | started request =>
    refine ⟨_, rfl, (Publisher.finish_frame setup s.host p d launch).1.trans views, ?_⟩
    exact fun uri apart =>
      (Publisher.agrees_finish_ne setup s.host p launch apart).trans (others uri apart)

theorem provide_agrees (setup : Setup) (agrees : Publisher.Agrees d.uri s.publisher t.publisher)
    (host : t.host = s.host) (launch : Launch) :
    (t.provide setup d launch).2 = (s.provide setup d launch).2 ∧
      Publisher.Agrees d.uri (s.provide setup d launch).1.publisher
        (t.provide setup d launch).1.publisher := by
  unfold provide
  obtain ⟨answer, log, left⟩ := agrees.request setup
  generalize Publisher.request setup s.publisher d = requested at answer log left ⊢
  generalize Publisher.request setup t.publisher d = requested' at answer log left ⊢
  obtain ⟨admission, trace, p⟩ := requested
  obtain ⟨_, _, q⟩ := requested'
  cases answer
  cases log
  cases admission with
  | busy => exact ⟨rfl, left⟩
  | interrupted i => exact ⟨rfl, left⟩
  | started request =>
    obtain ⟨outcome, more, ended⟩ := left.finish setup launch host
    simp only [outcome, more]
    exact ⟨trivial, ended⟩

theorem startRun_agrees (setup : Setup) (agrees : Publisher.Agrees d.uri s.publisher t.publisher)
    (name : String) :
    ∃ progress p q, (s.startRun setup name d).1 = s.keepRun name p progress ∧
      (t.startRun setup name d).1 = t.keepRun name q progress ∧
      (t.startRun setup name d).2 = (s.startRun setup name d).2 ∧
      p.views = s.publisher.views ∧ q.views = t.publisher.views ∧ Publisher.Agrees d.uri p q := by
  unfold startRun
  obtain ⟨answer, log, left⟩ := agrees.request setup
  have views := Publisher.request_views setup s.publisher d
  have views' := Publisher.request_views setup t.publisher d
  generalize Publisher.request setup s.publisher d = requested at answer log left views ⊢
  generalize Publisher.request setup t.publisher d = requested' at answer log left views' ⊢
  obtain ⟨admission, trace, p⟩ := requested
  obtain ⟨_, _, q⟩ := requested'
  cases answer
  cases log
  cases admission with
  | busy => exact ⟨_, p, q, rfl, rfl, rfl, views, views', left⟩
  | interrupted i => exact ⟨_, p, q, rfl, rfl, rfl, views, views', left⟩
  | started request => exact ⟨_, p, q, rfl, rfl, rfl, views, views', left⟩

/-! ### One step -/

theorem found_of_uri? (about : uri? setup path = some uri) :
    ∃ d, Document.ofPath? Document.systemLinks setup.root path = some d ∧ d.uri = uri :=
  Option.map_eq_some_iff.mp about

theorem Bound.view_of_views (bound : Bound b s) (about : b.views name = some uri) :
    ∃ v, Entries.get? name s.views = some v ∧ v.document.uri = uri :=
  Option.map_eq_some_iff.mp ((bound.views name).trans about)

/-- A step about another document leaves a session alike. -/
theorem Alike.skip (alike : Alike uri b c s t) (bound : Bound b s)
    (about : b.concern setup a = some other) (apart : other ≠ uri) :
    Alike uri (b.after setup a) c (s.step setup a).1 t := by
  cases a with
  | openView name path =>
    obtain ⟨d, found, rfl⟩ := found_of_uri? about
    obtain ⟨m, mirrors⟩ := alike.views
    simp only [step, withDocument, found, Bindings.after, uri?, Option.map_some, Option.elim_some]
    exact ⟨alike.host, alike.publisher.with_views, ⟨m, mirrors.opening_left apart⟩, alike.runs,
      alike.viewNames.update_left apart name, alike.runNames⟩
  | closeView name =>
    obtain ⟨v, known, rfl⟩ := bound.view_of_views about
    obtain ⟨m, mirrors⟩ := alike.views
    simp only [step, withView, known]
    exact ⟨alike.host, alike.publisher.with_views,
      ⟨m, mirrors.forgetting_left bound.numbered known apart⟩, alike.runs, alike.viewNames,
      alike.runNames⟩
  | documentClosed name =>
    obtain ⟨v, known, rfl⟩ := bound.view_of_views about
    simp only [step, withView, known]
    exact alike.publisher_left (Publisher.documentClosed_views _ v)
      (Publisher.agrees_documentClosed_ne _ apart)
  | provide path launch =>
    obtain ⟨d, found, rfl⟩ := found_of_uri? about
    obtain ⟨p, provided, views, others⟩ := provide_cases setup s d launch
    simp only [step, withDocument, found, provided]
    exact alike.publisher_left views (others uri apart)
  | start name path =>
    obtain ⟨d, found, rfl⟩ := found_of_uri? about
    obtain ⟨progress, started, _⟩ := startRun_cases setup s name d
    simp only [step, withDocument, found, started, Bindings.after, uri?, Option.map_some,
      Option.elim_some]
    exact alike.keepRun_left bound.filed (Publisher.request_views setup s.publisher d)
      (Publisher.agrees_request_ne setup s.publisher apart) apart
  | finish name launch =>
    have elsewhere : b.runs name ≠ some uri := fun same =>
      apart (Option.some.inj (about.symm.trans same))
    simp only [step, finishRun]
    split
    · exact alike
    · exact alike
    · rename_i i d running
      have same := bound.waiting name d (congrArg (Option.map Prod.snd) running)
      have others : d.uri ≠ uri := fun on => elsewhere (on ▸ same)
      exact alike.ended_left bound.filed running
        (Publisher.finish_frame setup s.host s.publisher d launch).1
        (Publisher.agrees_finish_ne setup s.host s.publisher launch others) elsewhere
  | put path values =>
    obtain ⟨d, found, rfl⟩ := found_of_uri? about
    simp only [step, withDocument, found]
    split
    · exact alike
    · rename_i ds read
      exact alike.publisher_left rfl (Publisher.agrees_change_ne (.replaced ds) s.publisher apart)
  | remove path =>
    obtain ⟨d, found, rfl⟩ := found_of_uri? about
    simp only [step, withDocument, found]
    exact alike.publisher_left rfl (Publisher.agrees_change_ne .dropped s.publisher apart)
  | look path =>
    obtain ⟨d, found, rfl⟩ := found_of_uri? about
    simp only [step, withDocument, found]
    exact alike
  | listViews => cases about
  | openSettings => cases about
  | setNotifier reply => cases about
  | setSettingsFailure failure => cases about

/-- A step about no document leaves alike sessions alike. -/
theorem Alike.aside (alike : Alike uri b c s t) (bound : Bound b s) (bound' : Bound c t)
    (about : b.concern setup a = none) :
    Alike uri (b.after setup a) (c.after setup a) (s.step setup a).1 (t.step setup a).1 := by
  have about' := (alike.concern (.inr about)).trans about
  have lost (path : String) (about : uri? setup path = none) :
      Document.ofPath? Document.systemLinks setup.root path = none :=
        Option.map_eq_none_iff.mp about
  cases a with
  | openView name path | start name path =>
    have unbound : uri? setup path = none := about
    simp only [Bindings.after, step, withDocument, lost path about, unbound, Option.elim_none]
    exact alike
  | closeView name | documentClosed name =>
    have unknown := Option.map_eq_none_iff.mp ((bound.views name).trans about)
    have unknown' := Option.map_eq_none_iff.mp ((bound'.views name).trans about')
    simp only [step, withView, unknown, unknown']
    exact alike
  | provide path launch | put path values | remove path | look path =>
    simp only [step, withDocument, lost path about]
    exact alike
  | finish name launch =>
    have unknown := Option.map_eq_none_iff.mp ((bound.runs name).mpr about)
    have unknown' := Option.map_eq_none_iff.mp ((bound'.runs name).mpr about')
    simp only [step, finishRun, unknown, unknown']
    exact alike
  | listViews => exact alike
  | openSettings =>
    exact alike.publisher_both rfl rfl alike.publisher.with_views
  | setNotifier _ | setSettingsFailure _ =>
    refine ⟨?_, alike.publisher, alike.views_of_unmoved ⟨rfl, rfl, rfl⟩ ⟨rfl, rfl, rfl⟩, alike.runs,
      alike.viewNames, alike.runNames⟩
    simp only [step, alike.host]

/-- A step about the document has the same reply in alike sessions and leaves them alike. -/
theorem Alike.both (alike : Alike uri b c s t) (bound : Bound b s) (bound' : Bound c t)
    (about : b.concern setup a = some uri) :
    (t.step setup a).2 = (s.step setup a).2 ∧
      Alike uri (b.after setup a) (c.after setup a) (s.step setup a).1 (t.step setup a).1 := by
  cases a with
  | openView name path =>
    obtain ⟨d, found, on⟩ := found_of_uri? about
    obtain ⟨m, mirrors⟩ := alike.views
    simp only [step, withDocument, found, Bindings.after, uri?, Option.map_some, Option.elim_some]
    exact ⟨trivial, alike.host, alike.publisher.with_views, ⟨_, mirrors.opening_both on⟩,
      alike.runs, alike.viewNames.update_both name _, alike.runNames⟩
  | closeView name =>
    obtain ⟨v, known, on⟩ := bound.view_of_views about
    obtain ⟨m, mirrors⟩ := alike.views
    obtain ⟨w, known', on', paired⟩ := mirrors.named name v known on
    simp only [step, withView, known, known']
    exact ⟨trivial, alike.host, alike.publisher.with_views, ⟨m, mirrors.forgetting_both paired⟩,
      alike.runs, alike.viewNames, alike.runNames⟩
  | documentClosed name =>
    obtain ⟨v, known, on⟩ := bound.view_of_views about
    obtain ⟨m, mirrors⟩ := alike.views
    obtain ⟨w, known', on', paired⟩ := mirrors.named name v known on
    have shown := mirrors.isShownElsewhere on on' paired
    subst on
    obtain ⟨removed, agrees⟩ := alike.publisher.documentClosed on'.symm shown
    simp only [step, withView, known, known', removed]
    exact ⟨trivial, alike.publisher_both (Publisher.documentClosed_views _ v)
      (Publisher.documentClosed_views _ w) agrees⟩
  | provide path launch =>
    obtain ⟨d, found, rfl⟩ := found_of_uri? about
    obtain ⟨p, provided, views, _⟩ := provide_cases setup s d launch
    obtain ⟨q, provided', views', _⟩ := provide_cases setup t d launch
    obtain ⟨reply, agrees⟩ := provide_agrees setup alike.publisher alike.host launch
    simp only [step, withDocument, found, provided, provided'] at agrees ⊢
    exact ⟨reply, alike.publisher_both views views' agrees⟩
  | start name path =>
    obtain ⟨d, found, rfl⟩ := found_of_uri? about
    obtain ⟨progress, p, q, started, started', reply, views, views', agrees⟩ :=
      startRun_agrees setup alike.publisher name
    simp only [step, withDocument, found, started, started', Bindings.after, uri?, Option.map_some,
      Option.elim_some]
    exact ⟨reply, alike.keepRun_both bound.filed bound'.filed views views' agrees⟩
  | finish name launch =>
    have same := alike.runs name about
    cases progress : s.progress? name with
    | none =>
      rw [progress] at same
      have unknown := Option.map_eq_none_iff.mp progress
      have unknown' := Option.map_eq_none_iff.mp same
      simp only [step, finishRun, unknown, unknown']
      exact ⟨trivial, alike⟩
    | some before =>
      rw [progress] at same
      obtain ⟨i, running⟩ := progress?_eq_some progress
      obtain ⟨j, running'⟩ := progress?_eq_some same
      cases before with
      | ended outcome =>
        simp only [step, finishRun, running, running']
        exact ⟨trivial, alike⟩
      | waiting d =>
        obtain rfl : d.uri = uri :=
          Option.some.inj ((bound.waiting name d progress).symm.trans about)
        obtain ⟨outcome, trace, agrees⟩ := alike.publisher.finish setup launch alike.host
        simp only [step, finishRun, running, running', outcome, trace]
        exact ⟨trivial, alike.ended_both bound.filed bound'.filed running running'
          (Publisher.finish_frame ..).1 (Publisher.finish_frame ..).1 agrees⟩
  | put path values =>
    obtain ⟨d, found, rfl⟩ := found_of_uri? about
    simp only [step, withDocument, found]
    split
    · exact ⟨rfl, alike⟩
    · rename_i ds read
      exact ⟨rfl, alike.publisher_both rfl rfl (alike.publisher.change (.replaced ds))⟩
  | remove path =>
    obtain ⟨d, found, rfl⟩ := found_of_uri? about
    simp only [step, withDocument, found]
    exact ⟨trivial, alike.publisher_both rfl rfl (alike.publisher.change .dropped)⟩
  | look path =>
    obtain ⟨d, found, rfl⟩ := found_of_uri? about
    simp only [step, withDocument, found, alike.publisher.entry]
    exact ⟨trivial, alike⟩
  | listViews => cases about
  | openSettings => cases about
  | setNotifier reply => cases about
  | setSettingsFailure failure => cases about

end CredoAssistant.Session
