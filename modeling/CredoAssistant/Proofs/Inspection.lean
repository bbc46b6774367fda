import CredoAssistant.Inspection
import CredoAssistant.Proofs.Diagnostic.Mapping
import CredoAssistant.Proofs.Json.Nesting

/-!
What the end of a launch comes to. A launch reports diagnostics when it printed nothing on its error
stream and a readable report whose priorities all map. What escapes an inspection has one of three
causes: the settings that the user asked for do not open, or the printed text holds an integer that
is too long to be converted, or it nests deeper than there is room on the stack.
-/
namespace CredoAssistant

variable {stack : Stack}

/-- The launch printed a report, and `ds` are the diagnostics of its issues. -/
def Launch.Reports (launch : Launch) (stack : Stack) (ds : List Diagnostic) : Prop :=
  ∃ stdout code issues, launch = .finished stdout "" code ∧ Report.read stack stdout = .ok issues ∧
    Diagnostic.ofIssues issues = .ok ds

/-- The launch printed nothing on its error stream and a readable report, and every priority of the
report has a severity. -/
def Launch.IsMappable (launch : Launch) (stack : Stack) : Prop :=
  ∃ stdout code issues, launch = .finished stdout "" code ∧ Report.read stack stdout = .ok issues ∧
    ∀ i ∈ issues, (Severity.ofPriority? i.priority).isSome = true

/-- Mappable launches are those that report diagnostics. -/
theorem Launch.isMappable_iff {launch : Launch} :
    launch.IsMappable stack ↔ ∃ ds, launch.Reports stack ds := by
  constructor
  · rintro ⟨stdout, code, issues, ended, read, known⟩
    obtain ⟨ds, mapped⟩ := Diagnostic.exists_ofIssues_iff.mpr known
    exact ⟨ds, stdout, code, issues, ended, read, mapped⟩
  · rintro ⟨ds, stdout, code, issues, ended, read, mapped⟩
    exact ⟨stdout, code, issues, ended, read, Diagnostic.exists_ofIssues_iff.mp ⟨ds, mapped⟩⟩

/-- The launch ended as launchers let it end: with a finished process or with a system error. -/
def Launch.IsOrdinary : Launch → Prop
  | .finished .. | .refused _ => True
  | .crashed _ | .nullCharacter => False

/-- The launch is a failure of the tool, of which the user is notified. -/
def Launch.IsToolFailure : Launch → Prop
  | .finished _ stderr _ => stderr ≠ ""
  | .refused _ => True
  | .crashed _ | .nullCharacter => False

/-- What escapes an inspection whose launch ended as launchers let it end. -/
inductive Escapes (stack : Stack) (host : Host) : Launch → Interruption → Prop
  | settings {launch : Launch} {message : String} (failure : launch.IsToolFailure)
      (chosen : host.notifier = .chose (some Notification.settingsAction))
      (failing : host.settingsFailure = some message) :
      Escapes stack host launch (.settingsFailure message)
  | integer {stdout : String} {code : Option Int} {n : Nat}
      (oversized : Json.read stack stdout.toList = .error (.oversizedInteger n)) :
      Escapes stack host (.finished stdout "" code) (.oversizedInteger n)
  | bracket {stdout : String} {code : Option Int} {b : Json.Bracket}
      (deep : Json.read stack stdout.toList = .error (.tooDeep b)) :
      Escapes stack host (.finished stdout "" code) (.tooDeep b)

/-- An escape needs settings that fail to open, a text with more digits in a row than an integer may
have, or one that nests too deep. -/
theorem Escapes.cause {host : Host} {launch : Launch} {i : Interruption}
    (escapes : Escapes stack host launch i) :
    (∃ message, host.settingsFailure = some message) ∨
      ∃ stdout code, launch = .finished stdout "" code ∧
        ((∃ n, Json.HasOversized n stdout.toList) ∨
          stack.levels < Json.nesting stdout.toList) := by
  cases escapes with
  | settings failure chosen failing => exact .inl ⟨_, failing⟩
  | integer oversized => exact .inr ⟨_, _, rfl, .inl ⟨_, Json.hasOversized_of_read oversized⟩⟩
  | bracket deep => exact .inr ⟨_, _, rfl, .inr (Json.lt_nesting_of_read deep)⟩

/-- A text is given up where its JSON is: a report adds no reason of its own. -/
theorem Report.read_eq_oversized_iff {stdout : String} {n : Nat} :
    Report.read stack stdout = .error (.oversizedInteger n) ↔
      Json.read stack stdout.toList = .error (.oversizedInteger n) := by
  unfold Report.read
  cases Json.read stack stdout.toList with
  | error failure => cases failure <;> simp
  | ok v =>
    dsimp only
    cases Report.ofValue v <;> simp

theorem Report.read_eq_tooDeep_iff {stdout : String} {b : Json.Bracket} :
    Report.read stack stdout = .error (.tooDeep b) ↔
      Json.read stack stdout.toList = .error (.tooDeep b) := by
  unfold Report.read
  cases Json.read stack stdout.toList with
  | error failure => cases failure <;> simp
  | ok v =>
    dsimp only
    cases Report.ofValue v <;> simp

/-- Only an integer or a bracket escapes the inspection of a launch that printed nothing on its
error stream. -/
theorem escapes_of_silent {host : Host} {stdout : String} {code : Option Int} {i : Interruption} :
    Escapes stack host (.finished stdout "" code) i ↔
      (∃ n, Report.read stack stdout = .error (.oversizedInteger n) ∧ i = .oversizedInteger n) ∨
        ∃ b, Report.read stack stdout = .error (.tooDeep b) ∧ i = .tooDeep b := by
  constructor
  · intro escapes
    cases escapes with
    | settings failure _ _ => exact absurd rfl failure
    | integer oversized => exact .inl ⟨_, Report.read_eq_oversized_iff.mpr oversized, rfl⟩
    | bracket deep => exact .inr ⟨_, Report.read_eq_tooDeep_iff.mpr deep, rfl⟩
  · rintro (⟨n, oversized, rfl⟩ | ⟨b, deep, rfl⟩)
    · exact .integer (Report.read_eq_oversized_iff.mp oversized)
    · exact .bracket (Report.read_eq_tooDeep_iff.mp deep)

/-- Notifying the user fails exactly when the settings are asked for and fail to open. -/
theorem Host.notify_eq_error_iff {host : Host} (stderr : String) {i : Interruption} :
    (host.notify stderr).1 = .error i ↔
      host.notifier = .chose (some Notification.settingsAction) ∧
        ∃ message, host.settingsFailure = some message ∧ i = .settingsFailure message := by
  obtain ⟨notifier, failing⟩ := host
  cases notifier with
  | failed message => simp [notify]
  | chose action =>
    by_cases asked : action = some Notification.settingsAction
    · subst asked
      cases failing with
      | none => simp [notify, openSettings]
      | some message => simp [notify, openSettings, eq_comm]
    · simp [notify, asked]

namespace Inspection

theorem ofLaunch_of_conclude {host : Host} {command : List String} {launch : Launch}
    {result : Inspection} (done : (conclude stack host command launch).1 = .ok result) :
    ofLaunch stack command launch = .ok result := by
  unfold conclude at done
  split at done
  · cases done
  · rename_i found h
    cases told : (announce host found).1 with
    | error i => simp [told, Except.map] at done
    | ok u =>
      simp only [told, Except.map] at done
      exact h.trans done

/-- What a readable report leads to is told without fail. -/
theorem conclude_of_reports {launch : Launch} {ds : List Diagnostic} (host : Host)
    (command : List String) (reported : launch.Reports stack ds) :
    ∃ result, (conclude stack host command launch).1 = .ok result := by
  obtain ⟨stdout, code, issues, rfl, read, _⟩ := reported
  refine ⟨.found issues code, ?_⟩
  have answered : ofLaunch stack command (.finished stdout "" code) = .ok (.found issues code) := by
    simp only [ofLaunch, ne_eq, not_true_eq_false, if_false, read]
  simp only [conclude, answered]
  rfl

/-- A result of a launch is a success exactly when the launch printed nothing on its error stream
and a readable report; its issues are those of the report. -/
theorem ofLaunch_success {command : List String} {launch : Launch} {result : Inspection}
    (ended : ofLaunch stack command launch = .ok result) :
    result.isOk = true ↔ ∃ stdout code, launch = .finished stdout "" code ∧
      Report.read stack stdout = .ok result.issues := by
  cases launch with
  | crashed message => cases ended
  | nullCharacter => cases ended
  | refused e =>
    cases ended
    simp [isOk]
  | finished stdout stderr code =>
    by_cases silent : stderr = ""
    · subst silent
      simp only [ofLaunch, ne_eq, not_true_eq_false, if_false] at ended
      cases read : Report.read stack stdout with
      | error failure =>
        cases failure with
        | oversizedInteger n => simp [read] at ended
        | tooDeep b => simp [read] at ended
        | flawed e =>
          simp only [read, Except.ok.injEq] at ended
          subst ended
          simp [isOk, read]
      | ok issues =>
        simp only [read, Except.ok.injEq] at ended
        subst ended
        simp [isOk, Inspection.issues, read]
    · simp only [ofLaunch, ne_eq, silent, not_false_eq_true, if_true, Except.ok.injEq] at ended
      subst ended
      simp [isOk, silent]

/-- A tool failure is told by notifying the user, and fails with the notification. -/
theorem conclude_of_toolFailure {launch : Launch} (host : Host) (command : List String)
    (failure : launch.IsToolFailure) {i : Interruption} :
    (conclude stack host command launch).1 = .error i ↔
      host.notifier = .chose (some Notification.settingsAction) ∧
        ∃ message, host.settingsFailure = some message ∧ i = .settingsFailure message := by
  obtain ⟨e, failed⟩ : ∃ e, ofLaunch stack command launch = .ok (.toolFailure e) := by
    cases launch with
    | finished stdout stderr code => exact ⟨_, if_pos failure⟩
    | refused e => exact ⟨_, rfl⟩
    | crashed message => exact failure.elim
    | nullCharacter => exact failure.elim
  rw [← Host.notify_eq_error_iff e.stderr]
  simp only [conclude, failed, announce]
  cases (host.notify e.stderr).1 with
  | error j => simp [Except.map]
  | ok u => simp [Except.map]

/-- Exactly what escapes an inspection interrupts it. -/
theorem conclude_eq_error_iff {host : Host} {launch : Launch} (command : List String)
    (ordinary : launch.IsOrdinary) {i : Interruption} :
    (conclude stack host command launch).1 = .error i ↔ Escapes stack host launch i := by
  by_cases failure : launch.IsToolFailure
  · rw [conclude_of_toolFailure host command failure]
    constructor
    · rintro ⟨chosen, message, failing, rfl⟩
      exact .settings failure chosen failing
    · intro escapes
      cases escapes with
      | settings _ chosen failing => exact ⟨chosen, _, failing, rfl⟩
      | integer oversized => exact absurd rfl failure
      | bracket deep => exact absurd rfl failure
  · cases launch with
    | refused e => exact absurd trivial failure
    | crashed message => exact ordinary.elim
    | nullCharacter => exact ordinary.elim
    | finished stdout stderr code =>
      obtain rfl : stderr = "" := not_not.mp failure
      -- Nobody is notified here, so the reader alone can interrupt.
      rw [escapes_of_silent]
      simp only [conclude, ofLaunch, ne_eq, not_true_eq_false, if_false]
      cases read : Report.read stack stdout with
      | ok issues => simp [announce, Except.map]
      | error failed =>
        cases failed with
        | flawed e => simp [announce, Except.map]
        | oversizedInteger n => simp [eq_comm]
        | tooDeep b => simp [eq_comm]

end Inspection

end CredoAssistant
