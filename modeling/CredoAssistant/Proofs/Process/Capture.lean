import CredoAssistant.Process.Run
import CredoAssistant.Proofs.Inspection
import CredoAssistant.Proofs.Text.Replacement

/-!
From the bytes of a process to the verdict of an inspection. The texts of a process that ended in
time show all bytes that it wrote. Those of a process that was killed for its time show what was
left in its pipes and no more; but such a process is told of on the error stream, so it never passes
for a success, and neither does one that wrote there.
-/
namespace CredoAssistant

/-- A text that shows some bytes: they are read with replacement, those of a text are read as they
stand, and no text is left only when there are no bytes. -/
structure Renders (bytes : List UInt8) (text : String) : Prop where
  shown : Utf8.Shown bytes text.toList
  exact : ∀ cs, bytes = Utf8.encode cs → text = String.ofList cs
  empty_iff : text = "" ↔ bytes = []

theorem ProcessResult.renders_decode (bytes : List UInt8) : Renders bytes (decode bytes) := by
  refine ⟨?_, fun cs text => ?_, ?_⟩
  · rw [decode, String.toList_ofList]
    exact Utf8.shown_decodeLossy bytes
  · rw [decode, text, Utf8.decodeLossy_encode]
  · rw [decode, ← Utf8.decodeLossy_eq_nil_iff]
    exact ⟨fun empty => String.ofList_injective empty, fun none => by rw [none]⟩

/-- The process was killed for its time. -/
def Capture.IsLate {limit : Option Seconds} (c : Capture limit) : Prop :=
  ∃ t set, c.ending = .late t set

/-- Nothing keeps the shell from being started: no text holds a null character, and no name of a
variable holds an equals sign. -/
structure Surroundings.Admits (s : Surroundings) (args : List String) (options : ProcessOptions) :
    Prop where
  args : ∀ a ∈ args, '\x00' ∉ a.toList
  names : ∀ e ∈ options.env.getD s.environment, '=' ∉ e.1.toList ∧ '\x00' ∉ e.1.toList
  values : ∀ e ∈ options.env.getD s.environment, '\x00' ∉ e.2.toList
  directory : ∀ p ∈ options.cwd, p.hasNull = false

theorem Surroundings.hasNull_eq_false_iff {texts : List String} :
    hasNull texts = false ↔ ∀ t ∈ texts, '\x00' ∉ t.toList := by
  simp [hasNull]

theorem Surroundings.execute_of_admits (s : Surroundings) {args : List String} (line : String)
    {options : ProcessOptions} (admits : s.Admits args options) :
    s.execute args line options =
      (s.shell ⟨line, options.cwd, options.env.getD s.environment, options.timeout⟩).mapError
        .system := by
  have names : ((options.env.getD s.environment).any fun e => e.1.toList.contains '=') = false := by
    simpa using fun name value inside => (admits.names (name, value) inside).1
  have words : hasNull args = false := hasNull_eq_false_iff.mpr admits.args
  have inherited : hasNull ((options.env.getD s.environment).flatMap fun e => [e.1, e.2]) =
      false := by
    refine hasNull_eq_false_iff.mpr fun t inside => ?_
    obtain ⟨e, kept, part⟩ := List.mem_flatMap.mp inside
    rcases List.mem_pair.mp part with rfl | rfl
    · exact (admits.names e kept).2
    · exact admits.values e kept
  have directory : options.cwd.any Path.hasNull = false := by
    cases chosen : options.cwd with
    | none => rfl
    | some p => exact admits.directory p chosen
  simp only [execute, names, words, inherited, directory, Bool.or_self, Bool.false_eq_true,
    if_false]

namespace ProcessResult

variable {limit : Option Seconds} {args : List String} {c : Capture limit} {t : Seconds}
  {set : limit = some t}

theorem timeoutMessage_ne_empty (t : Seconds) : timeoutMessage t ≠ "" := by
  intro empty
  unfold timeoutMessage at empty
  generalize t.toBinary64.oneDecimal = tenths at empty
  exact absurd (String.append_eq_empty_iff.mp empty).2 (by decide)

/-- The message stands behind what was left, on a line of its own. -/
theorem stderr_ofTimeout (args : List String) (t : Seconds) (stdout stderr : List UInt8) :
    (ofTimeout args t stdout stderr).stderr =
      (if decode stderr = "" then "" else decode stderr ++ "\n") ++ timeoutMessage t := by
  unfold ofTimeout
  dsimp only
  split
  · exact (String.empty_append).symm
  · rfl

theorem ofCapture_late (ended : c.ending = .late t set) :
    ofCapture args c = ofTimeout args t c.stdout.left c.stderr.left := by
  rw [ofCapture, ended]

theorem ofCapture_inTime (args : List String) (ended : ¬ c.IsLate) :
    ∃ code, ofCapture args c = ofExit args code c.stdout.bytes c.stderr.bytes := by
  unfold ofCapture
  split
  · exact ⟨_, rfl⟩
  · exact ⟨_, rfl⟩
  · rename_i t set late
    exact absurd ⟨t, set, late⟩ ended

theorem timedOut_ofCapture_iff : (ofCapture args c).timedOut = true ↔ c.IsLate := by
  by_cases late : c.IsLate
  · obtain ⟨t, set, ended⟩ := late
    rw [ofCapture_late ended]
    exact iff_of_true rfl ⟨t, set, ended⟩
  · obtain ⟨code, ended⟩ := ofCapture_inTime args late
    rw [ended]
    exact iff_of_false Bool.false_ne_true late

/-- The error stream of a result is silent exactly when the process ended in time and wrote nothing
there. -/
theorem stderr_ofCapture_eq_empty_iff :
    (ofCapture args c).stderr = "" ↔
      (ofCapture args c).timedOut = false ∧ c.stderr.bytes = [] := by
  rw [← Bool.not_eq_true, timedOut_ofCapture_iff]
  by_cases late : c.IsLate
  · obtain ⟨t, set, ended⟩ := late
    rw [ofCapture_late ended, stderr_ofTimeout]
    refine iff_of_false (fun empty => ?_) fun both => both.1 ⟨t, set, ended⟩
    exact timeoutMessage_ne_empty t (String.append_eq_empty_iff.mp empty).2
  · obtain ⟨code, ended⟩ := ofCapture_inTime args late
    rw [ended]
    exact (renders_decode c.stderr.bytes).empty_iff.trans (and_iff_right late).symm

/-- What a result shows, and what an inspection makes of it. A process that ended in time shows all
that it wrote; one that was killed for its time shows what was left of that. -/
structure Judged (args : List String) (options : ProcessOptions) (c : Capture options.timeout)
    (r : ProcessResult) : Prop where
  ended : ¬ c.IsLate → Renders c.stdout.bytes r.stdout ∧ Renders c.stderr.bytes r.stderr
  late : ∀ t set, c.ending = .late t set → Renders c.stdout.left r.stdout ∧ r.returncode = 124 ∧
    ∃ text, Renders c.stderr.left text ∧
      r.stderr = (if text = "" then "" else text ++ "\n") ++ timeoutMessage t
  timedOut_iff : r.timedOut = true ↔ c.IsLate
  loud : r.timedOut = true → r.stderr ≠ ""
  failed : c.stderr.bytes ≠ [] ∨ r.timedOut = true → ∀ stack command,
    Inspection.ofLaunch stack command r.toLaunch =
      .ok (.toolFailure ⟨r.stderr, some r.returncode, command⟩)
  succeeds_iff : ∀ stack host command,
    (∃ i, (Inspection.conclude stack host command r.toLaunch).1 = .ok i ∧ i.isOk = true) ↔
      r.timedOut = false ∧ c.stderr.bytes = [] ∧ ∃ issues, Report.read stack r.stdout = .ok issues
  launched : ∀ (s : Surroundings) (line : String), Shell.commandLine? args = some line →
    s.Admits args options →
      s.shell ⟨line, options.cwd, options.env.getD s.environment, options.timeout⟩ = .ok c →
        (s.launch ⟨args, options⟩).1 = r.toLaunch

/-- An inspection succeeds exactly when its launch printed a readable report and nothing else. -/
theorem exists_success_iff (stack : Stack) (host : Host) (command : List String)
    (r : ProcessResult) :
    (∃ i, (Inspection.conclude stack host command r.toLaunch).1 = .ok i ∧ i.isOk = true) ↔
      r.stderr = "" ∧ ∃ issues, Report.read stack r.stdout = .ok issues := by
  constructor
  · rintro ⟨i, returned, success⟩
    have ended := Inspection.ofLaunch_of_conclude returned
    obtain ⟨stdout, code, launch, read⟩ := (Inspection.ofLaunch_success ended).mp success
    obtain ⟨rfl, silent, rfl⟩ := Launch.finished.inj launch
    exact ⟨silent, _, read⟩
  · rintro ⟨silent, issues, read⟩
    refine ⟨.found issues (some r.returncode), ?_, rfl⟩
    have ended : Inspection.ofLaunch stack command r.toLaunch =
        .ok (.found issues (some r.returncode)) := by
      simp only [toLaunch, Inspection.ofLaunch, silent, ne_eq, not_true_eq_false, if_false, read]
    simp only [Inspection.conclude, ended]
    rfl

theorem launch_of_shell {s : Surroundings} {options : ProcessOptions}
    {c : Capture options.timeout} {line : String} (written : Shell.commandLine? args = some line)
    (admits : s.Admits args options)
    (ended : s.shell ⟨line, options.cwd, options.env.getD s.environment, options.timeout⟩ =
      .ok c) :
    (s.launch ⟨args, options⟩).1 = (ofCapture args c).toLaunch := by
  have executed : s.execute args line options = .ok c := by
    rw [s.execute_of_admits line admits, ended]
    rfl
  have ran : s.run args options = .ok (ofCapture args c, records line c) := by
    simp only [Surroundings.run, written, executed]
    rfl
  simp only [Surroundings.launch, ran]

/-- A process is judged by what its result shows, and a success wrote nothing on its error stream
and ended in time. -/
theorem judged_of_capture (args : List String) (options : ProcessOptions)
    (c : Capture options.timeout) : Judged args options c (ofCapture args c) := by
  constructor
  case ended =>
    intro inTime
    obtain ⟨code, ended⟩ := ofCapture_inTime args inTime
    rw [ended]
    exact ⟨renders_decode c.stdout.bytes, renders_decode c.stderr.bytes⟩
  case late =>
    intro t set ended
    rw [ofCapture_late ended]
    exact ⟨renders_decode c.stdout.left, rfl, decode c.stderr.left, renders_decode c.stderr.left,
      stderr_ofTimeout ..⟩
  case timedOut_iff => exact timedOut_ofCapture_iff
  case loud =>
    intro late silent
    have inTime := (stderr_ofCapture_eq_empty_iff.mp silent).1
    rw [late] at inTime
    cases inTime
  case failed =>
    intro trouble stack command
    refine if_pos fun silent => ?_
    obtain ⟨inTime, nothing⟩ := stderr_ofCapture_eq_empty_iff.mp silent
    rcases trouble with wrote | late
    · exact wrote nothing
    · rw [late] at inTime
      cases inTime
  case succeeds_iff =>
    intro stack host command
    rw [exists_success_iff, stderr_ofCapture_eq_empty_iff, and_assoc]
  case launched => exact fun s line => launch_of_shell

/-- A process that writes a line and is killed for its time a second later, when the line was taken
from its pipe. -/
def interrupted : Capture (some (.whole 1)) :=
  ⟨.late (.whole 1) rfl, ⟨Utf8.encode "partial\n".toList, []⟩, ⟨[], []⟩⟩

/-- What was taken from the pipes before the time limit is shown nowhere. -/
theorem lost_of_late :
    interrupted.stdout.bytes = Utf8.encode "partial\n".toList ∧
      (ofCapture ["sh"] interrupted).stdout = "" ∧
      (ofCapture ["sh"] interrupted).stderr = "Command timed out after 1.0s" ∧
      ¬ Renders interrupted.stdout.bytes (ofCapture ["sh"] interrupted).stdout := by
  have nothing : (ofCapture ["sh"] interrupted).stdout = "" := by decide +kernel
  refine ⟨rfl, nothing, by decide +kernel, fun renders => ?_⟩
  exact absurd (renders.empty_iff.mp nothing) (by decide +kernel)

end ProcessResult

end CredoAssistant
