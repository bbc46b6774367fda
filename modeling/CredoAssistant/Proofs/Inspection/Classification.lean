import CredoAssistant.Proofs.Inspection

/-!
Classes of inspections. A launch that comes to a result falls into one of four classes, and the
class fixes every part of the result: whether it is a success, the issues, the error, the text of
the error stream and the exit code. The host has no say in it; all it can do is to stop a failure of
the tool from being told, when the settings that its user asks for do not open.
-/
namespace CredoAssistant

/-- The user asks for the settings and they do not open. -/
def Host.Obstructs (host : Host) : Prop :=
  host.notifier = .chose (some Notification.settingsAction) ∧
    ∃ message, host.settingsFailure = some message

theorem Host.notify_eq_ok {host : Host} (free : ¬ host.Obstructs) (stderr : String) :
    (host.notify stderr).1 = .ok () := by
  cases told : (host.notify stderr).1 with
  | ok u => rfl
  | error i =>
    obtain ⟨chosen, message, failing, _⟩ := (Host.notify_eq_error_iff stderr).mp told
    exact absurd ⟨chosen, message, failing⟩ free

namespace Inspection

variable {stack : Stack} {host : Host} {command : List String} {launch : Launch}
  {result : Inspection}

/-- The parts of a result: whether it is a success, its issues, its error, what the linter wrote on
its error stream, and its exit code. -/
structure Shows (result : Inspection) (ok : Bool) (issues : List Issue)
    (error : Option InspectionError) (stderr : String) (returncode : Option Int) : Prop where
  ok : result.isOk = ok
  issues : result.issues = issues
  error : result.error? = error
  stderr : result.stderr = stderr
  returncode : result.returncode = returncode

/-- The class of a launch of `command`, with the parts of the result that it leads to. -/
inductive Classified (stack : Stack) (command : List String) (result : Inspection) : Launch → Prop
  | refused {e : SystemError}
      (shows : result.Shows false [] (some (.tool ⟨e.message, none, command⟩)) e.message none) :
      Classified stack command result (.refused e)
  | complained {stdout stderr : String} {code : Option Int} (loud : stderr ≠ "")
      (shows : result.Shows false [] (some (.tool ⟨stderr, code, command⟩)) stderr code) :
      Classified stack command result (.finished stdout stderr code)
  | unreadable {stdout : String} {code : Option Int} {e : ReportError}
      (read : Report.read stack stdout = .error (.flawed e))
      (shows : result.Shows false [] (some (.report e)) "" code) :
      Classified stack command result (.finished stdout "" code)
  | found {stdout : String} {code : Option Int} {issues : List Issue}
      (read : Report.read stack stdout = .ok issues)
      (shows : result.Shows true issues none "" code) :
      Classified stack command result (.finished stdout "" code)

/-- The result of a launch has the parts that its class asks for. -/
theorem classified_of_ofLaunch (ended : ofLaunch stack command launch = .ok result) :
    Classified stack command result launch := by
  cases launch with
  | crashed message => cases ended
  | nullCharacter => cases ended
  | refused e =>
    cases ended
    exact .refused ⟨rfl, rfl, rfl, rfl, rfl⟩
  | finished stdout stderr code =>
    by_cases silent : stderr = ""
    · subst silent
      simp only [ofLaunch, ne_eq, not_true_eq_false, if_false] at ended
      cases read : Report.read stack stdout with
      | ok issues =>
        rw [read] at ended
        cases ended
        exact .found read ⟨rfl, rfl, rfl, rfl, rfl⟩
      | error failure =>
        rw [read] at ended
        cases failure with
        | oversizedInteger n => cases ended
        | tooDeep b => cases ended
        | flawed e =>
          cases ended
          exact .unreadable read ⟨rfl, rfl, rfl, rfl, rfl⟩
    · have failed : ofLaunch stack command (.finished stdout stderr code) =
          .ok (.toolFailure ⟨stderr, code, command⟩) := if_pos silent
      rw [failed] at ended
      cases ended
      exact .complained silent ⟨rfl, rfl, rfl, rfl, rfl⟩

/-- A host that does not obstruct lets every result through. -/
theorem conclude_of_ofLaunch (ended : ofLaunch stack command launch = .ok result)
    (free : ¬ host.Obstructs) : (conclude stack host command launch).1 = .ok result := by
  have told : (announce host result).1 = .ok () := by
    cases result with
    | found issues code => rfl
    | unreadable e code => rfl
    | toolFailure e => exact Host.notify_eq_ok free e.stderr
  simp only [conclude, ended, told, Except.map]

/-- What was printed does not count once something stands on the error stream. -/
theorem conclude_of_complaint (host : Host) (command : List String) {stderr : String}
    (loud : stderr ≠ "") (stdout stdout' : String) (code : Option Int) :
    conclude stack host command (.finished stdout stderr code) =
      conclude stack host command (.finished stdout' stderr code) := by
  have failed (printed : String) : ofLaunch stack command (.finished printed stderr code) =
      .ok (.toolFailure ⟨stderr, code, command⟩) := if_pos loud
  simp only [conclude, failed]

/-- What an inspection of `file` came to, and that nothing but its launch decides it: every other
host gets the same result, or none if it obstructs. -/
structure Decided (stack : Stack) (settings : Settings) (file : String) (host : Host)
    (launch : Launch) (result : Inspection) : Prop where
  classified : Classified stack (settings.commandFor file) result launch
  ok_iff : result.isOk = true ↔ result.error? = none
  failed : result.isOk = false → result.issues = []
  alone : ∀ other found, (conclude stack other (settings.commandFor file) launch).1 = .ok found →
    found = result
  reached : ∀ other : Host, ¬ other.Obstructs →
    (conclude stack other (settings.commandFor file) launch).1 = .ok result
  silent : ∀ stdout stderr code stdout', launch = .finished stdout stderr code → stderr ≠ "" →
    conclude stack host (settings.commandFor file) (.finished stdout' stderr code) =
      conclude stack host (settings.commandFor file) launch

/-- Every inspection that comes to a result is decided by its launch. -/
theorem decided_of_conclude (stack : Stack) (settings : Settings) (file : String) (host : Host)
    (launch : Launch) (result : Inspection)
    (returned : (conclude stack host (settings.commandFor file) launch).1 = .ok result) :
    Decided stack settings file host launch result := by
  have ended := ofLaunch_of_conclude returned
  refine ⟨classified_of_ofLaunch ended, ?_, ?_, fun other found answer => ?_, fun other free => ?_,
    fun stdout stderr code stdout' finished loud => ?_⟩
  · cases result <;> simp [isOk, error?]
  · cases result <;> simp [isOk, issues]
  · have same := ofLaunch_of_conclude answer
    rw [ended] at same
    exact (Except.ok.inj same).symm
  · exact conclude_of_ofLaunch ended free
  · rw [finished]
    exact conclude_of_complaint host _ loud stdout' stdout code

/-- A complaint beside a valid report is a failure, also when the notification itself fails. -/
theorem decided_beside_report :
    (conclude .usual ⟨.failed "no display", none⟩ (Settings.default.commandFor "lib/a.ex")
      (.finished "\x7b\"issues\": []\x7d" "boom" (some 0))).1 =
        .ok (.toolFailure ⟨"boom", some 0, Settings.default.commandFor "lib/a.ex"⟩) ∧
    Decided .usual .default "lib/a.ex" ⟨.failed "no display", none⟩
      (.finished "\x7b\"issues\": []\x7d" "boom" (some 0))
      (.toolFailure ⟨"boom", some 0, Settings.default.commandFor "lib/a.ex"⟩) :=
  ⟨rfl, decided_of_conclude _ _ _ _ _ _ rfl⟩

end Inspection

end CredoAssistant
