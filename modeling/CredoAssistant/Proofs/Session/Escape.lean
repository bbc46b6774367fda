import CredoAssistant.Proofs.Json.Completeness
import CredoAssistant.Proofs.Publisher
import CredoAssistant.Proofs.Settings.TimeLimit
import CredoAssistant.Session

/-!
What escapes an inspection. A launch that ends as launchers let it end leads to a result, and a
request for diagnostics to an answer, with three exceptions: the user asks for settings that fail to
open, the printed text holds an integer that is too long to be converted, or it nests deeper than
there is room on the stack. All of them pass through the publisher, which guards against none.
-/
namespace CredoAssistant

variable {stack : Stack} {setup : Setup} {host : Host} {launch : Launch} {d : Document}

/-- An outcome, unless the launch escapes; then the outcome is what escapes. -/
structure Resolved {α : Type} (stack : Stack) (host : Host) (launch : Launch)
    (outcome : Except Interruption α) : Prop where
  interrupted_iff : ∀ i, outcome = .error i ↔ Escapes stack host launch i
  answered_iff : (∃ a, outcome = .ok a) ↔ ¬ ∃ i, Escapes stack host launch i

theorem resolved_of_interrupted_iff {α : Type} {outcome : Except Interruption α}
    (interrupted : ∀ i, outcome = .error i ↔ Escapes stack host launch i) :
    Resolved stack host launch outcome := by
  refine ⟨interrupted, ?_⟩
  simp only [← interrupted]
  cases outcome with
  | error i => simp
  | ok a => simp

theorem Inspection.resolved_conclude (stack : Stack) (host : Host) (command : List String)
    (ordinary : launch.IsOrdinary) :
    Resolved stack host launch (conclude stack host command launch).1 :=
  resolved_of_interrupted_iff fun _ => conclude_eq_error_iff command ordinary

/-- A publisher adds no escape of its own to those of the inspection. -/
theorem Publisher.resolved_finish (setup : Setup) (host : Host) (p : Publisher) (d : Document)
    (ordinary : launch.IsOrdinary) :
    Resolved setup.stack host launch (finish setup host p d launch).1 := by
  refine resolved_of_interrupted_iff fun i => ?_
  rw [Publisher.finish_eq_error_iff]
  exact Inspection.conclude_eq_error_iff _ ordinary

namespace Session

/-- An inspection that is made at once answers with its end. -/
theorem answer_provide (timely : setup.IsTimely) (s : Session) {path : String}
    (found : Document.ofPath? Document.systemLinks setup.root path = some d)
    (free : d.uri ∉ s.publisher.inFlight) (launch : Launch) :
    (s.step setup (.provide path launch)).2.answer = answerOf .published
      (Publisher.finish setup s.host (s.publisher.enter d.uri) d launch).1 := by
  obtain ⟨q, trace, started, _⟩ := Publisher.request_free timely free
  simp only [step, withDocument, found, provide, started]

/-- What escapes an inspection that is made at once escapes the request for it. -/
theorem answer_provide_of_escapes {i : Interruption} (timely : setup.IsTimely) (s : Session)
    {path : String} (found : Document.ofPath? Document.systemLinks setup.root path = some d)
    (free : d.uri ∉ s.publisher.inFlight) (ordinary : launch.IsOrdinary)
    (escapes : Escapes setup.stack s.host launch i) :
    (s.step setup (.provide path launch)).2.answer = .error (.interrupted i) := by
  have ended := Publisher.resolved_finish setup s.host (s.publisher.enter d.uri) d ordinary
  rw [answer_provide timely s found free, (ended.interrupted_iff i).mpr escapes]
  rfl

theorem escapes_digits {n : Nat} (many : Json.maxDigits < n + 1) (stack : Stack) (host : Host)
    (code : Option Int) :
    Escapes stack host (.finished (String.ofList ('1' :: List.replicate n '1')) "" code)
      (.oversizedInteger (n + 1)) := by
  have digits : ∀ d ∈ '1' :: List.replicate n '1', d.isDigit = true := by
    intro d inside
    rcases List.mem_cons.mp inside with rfl | inside
    · rfl
    · rw [List.eq_of_mem_replicate inside]
      rfl
  have length : ('1' :: List.replicate n '1').length = n + 1 := by
    rw [List.length_cons, List.length_replicate]
  refine .integer ?_
  rw [String.toList_ofList, ← length]
  exact Json.read_oversized (by decide) digits (length ▸ many)

theorem escapes_brackets {n : Nat} (deep : stack.levels < n) (host : Host) (code : Option Int) :
    Escapes stack host (.finished (String.ofList (List.replicate n '[')) "" code)
      (.tooDeep .list) := by
  refine .bracket ?_
  rw [String.toList_ofList]
  exact Json.read_unclosed deep

/-- How a session answers where failures may come up: every inspection is asked for, and its end is
answered unless it escapes. -/
structure Resolves (setup : Setup) (s : Session) : Prop where
  asked : ∀ file, ∃ q, Inspection.request? setup.settings setup.options setup.root file = some q
  inspected : ∀ file launch, launch.IsOrdinary →
    Resolved setup.stack s.host launch
      (Inspection.conclude setup.stack s.host (setup.settings.commandFor file) launch).1
  provided : ∀ path launch d, launch.IsOrdinary →
    Document.ofPath? Document.systemLinks setup.root path = some d →
      (d.uri ∈ s.publisher.inFlight ∧
        (s.step setup (.provide path launch)).2.answer = .ok (.published none)) ∨
      (d.uri ∉ s.publisher.inFlight ∧ ∃ outcome, Resolved setup.stack s.host launch outcome ∧
        (s.step setup (.provide path launch)).2.answer = answerOf .published outcome)
  started : ∀ name path d, Document.ofPath? Document.systemLinks setup.root path = some d →
    (s.step setup (.start name path)).2.answer = .ok .waiting ∨
      (s.step setup (.start name path)).2.answer = .ok (.ended none)
  finished : ∀ name launch i d, launch.IsOrdinary → s.run? name = some (i, .waiting d) →
    ∃ outcome, Resolved setup.stack s.host launch outcome ∧
      (s.step setup (.finish name launch)).2.answer = answerOf .ended outcome
  caused : ∀ launch i, Escapes setup.stack s.host launch i →
    (∃ message, s.host.settingsFailure = some message) ∨
      ∃ stdout code, launch = .finished stdout "" code ∧
        ((∃ n, Json.HasOversized n stdout.toList) ∨
          setup.stack.levels < Json.nesting stdout.toList)

/-- With a timely setup every session resolves what it is asked, apart from the escapes. -/
theorem resolves (setup : Setup) (timely : setup.IsTimely) (s : Session) : Resolves setup s := by
  refine ⟨fun file => ?_, fun file launch ordinary => ?_, fun path launch d ordinary found => ?_,
    fun name path d found => ?_, fun name launch i d ordinary running => ?_,
    fun launch i escapes => escapes.cause⟩
  · obtain ⟨q, asked, _⟩ := Inspection.request?_of_isTimely timely file
    exact ⟨q, asked⟩
  · exact Inspection.resolved_conclude setup.stack s.host _ ordinary
  · by_cases busy : d.uri ∈ s.publisher.inFlight
    · refine .inl ⟨busy, ?_⟩
      simp only [step, withDocument, found, provide, Publisher.request, busy, if_true]
    · refine .inr ⟨busy, _, ?_, answer_provide timely s found busy launch⟩
      exact Publisher.resolved_finish setup s.host (s.publisher.enter d.uri) d ordinary
  · by_cases busy : d.uri ∈ s.publisher.inFlight
    · refine .inr ?_
      simp only [step, withDocument, found, startRun, Publisher.request, busy, if_true]
    · obtain ⟨q, trace, started, _⟩ := Publisher.request_free timely busy
      refine .inl ?_
      simp only [step, withDocument, found, startRun, started]
  · refine ⟨_, Publisher.resolved_finish setup s.host s.publisher d ordinary, ?_⟩
    simp only [step, finishRun, running]

theorem resolves_fresh :
    (Setup.ofRoot (Path.ofText "/proj")).IsTimely ∧
      Resolves (.ofRoot (Path.ofText "/proj")) (ofHost ⟨.chose (some 1), none⟩) :=
  ⟨Setup.isTimely_ofRoot _, resolves _ (Setup.isTimely_ofRoot _) _⟩

/-- Each cause does escape: settings that fail to open leave the inspection and the publisher with a
failure, and so do an integer of 4301 digits and a thousand open brackets. -/
theorem escapes_of_each_cause :
    (Inspection.conclude .usual ⟨.chose (some 1), some "no settings"⟩
      (Settings.default.commandFor "lib/a.ex") (.finished "" "boom" (some 1))).1 =
        .error (.settingsFailure "no settings") ∧
    ((ofHost ⟨.chose (some 1), some "no settings"⟩).step
      (.ofRoot (Path.ofText "/proj"))
      (.provide "lib/a.ex" (.finished "" "boom" (some 1)))).2.answer =
        .error (.interrupted (.settingsFailure "no settings")) ∧
    (Inspection.conclude .usual ⟨.chose none, none⟩ (Settings.default.commandFor "lib/a.ex")
      (.finished (String.ofList ('1' :: List.replicate 4300 '1')) "" (some 0))).1 =
        .error (.oversizedInteger 4301) ∧
    (Inspection.conclude .usual ⟨.chose none, none⟩ (Settings.default.commandFor "lib/a.ex")
      (.finished (String.ofList (List.replicate 1000 '[')) "" (some 0))).1 =
        .error (.tooDeep .list) := by
  have failing : Escapes .usual ⟨.chose (some 1), some "no settings"⟩
      (.finished "" "boom" (some 1)) (.settingsFailure "no settings") := by
    refine .settings ?_ rfl rfl
    show "boom" ≠ ""
    decide
  have named : (Document.ofPath? Document.systemLinks (Path.ofText "/proj") "lib/a.ex").isSome := by
    decide +kernel
  obtain ⟨d, found⟩ := Option.isSome_iff_exists.mp named
  refine ⟨?_, ?_, ?_, ?_⟩
  · exact (Inspection.conclude_eq_error_iff _ (by trivial)).mpr failing
  · have timely := Setup.isTimely_ofRoot (Path.ofText "/proj")
    exact answer_provide_of_escapes timely _ found List.not_mem_nil (by trivial) failing
  · have digits : Json.maxDigits < 4300 + 1 := by decide
    exact (Inspection.conclude_eq_error_iff _ (by trivial)).mpr (escapes_digits digits _ _ _)
  · have deep : Stack.usual.levels < 1000 := by decide
    exact (Inspection.conclude_eq_error_iff _ (by trivial)).mpr (escapes_brackets deep _ _)

end Session

end CredoAssistant
