import CredoAssistant.Proofs.Console.Arguments
import CredoAssistant.Proofs.Publisher
import CredoAssistant.Proofs.Report.Publishable
import CredoAssistant.Proofs.Settings.Standard

/-!
The command `inspect`. With settings that were loaded it asks the launcher once, and the answer
decides what the command comes to: without a report it fails and prints nothing, with one the
priorities of the report decide the exit code and the diagnostics are what is printed.
-/
namespace CredoAssistant

/-- The request that inspects a file of the project at `root`, where the linter starts. -/
def Settings.requestFor (s : Settings) (root : Path) (file : String) : LaunchRequest :=
  ⟨s.commandFor file, ⟨some root, none, s.timeout.map .number⟩⟩

theorem Inspection.request?_empty {s : Settings} (timely : s.IsTimely) (root : Path)
    (file : String) : request? s .empty root file = some (s.requestFor root file) := by
  have valid : ProcessOptions.empty.isValid = true := rfl
  rw [request?_eq timely valid, optionsIn, Settings.requestFor]
  cases s.timeout <;> rfl

namespace Console

variable {w : World} {file root : Path} {formatName : String} {strict : Option Bool}
  {timeout : Option Binary64} {emoji verbose : Bool} {e : Execution}

/-- The name of a format without regard to case. -/
def lowered (formatName : String) : String :=
  String.ofList (formatName.toList.map Char.toLower)

theorem Format.ofName?_eq (formatName : String) :
    Format.ofName? formatName =
      if lowered formatName = "pretty" then some .pretty
      else if lowered formatName = "json" then some .json else none := rfl

theorem Format.ofName?_eq_none_iff :
    Format.ofName? formatName = none ↔ lowered formatName ∉ ["pretty", "json"] := by
  rw [Format.ofName?_eq]
  split
  · rename_i pretty
    simp [pretty]
  · split
    · rename_i json
      simp [json]
    · rename_i other neither
      simp [other, neither]

theorem Format.ofName?_eq_json (json : lowered formatName = "json") :
    Format.ofName? formatName = some .json := by
  simp [Format.ofName?_eq, json]

namespace World

/-- What the answer of the launcher to an inspection comes to. -/
def findings (w : World) (s : Settings) (root : Path) (d : Document)
    (answer : Launch × List LogRecord) : Except Interruption Findings :=
  let ended := Publisher.finish ⟨s, .empty, root, w.stack⟩ (w.hostAfter answer.1)
    ((Publisher.empty.openView ⟨0, d⟩).enter d.uri) d answer.1
  ended.1.map fun published =>
    ⟨published, Inspection.startRecord (s.commandFor d.path) ++ ⟨answer.2, [], 0⟩ ++ ended.2.1,
      [s.requestFor root d.path]⟩

/-- The launcher is asked once. -/
theorem inspectDocument_eq (w : World) {s : Settings} (timely : s.IsTimely) (root : Path)
    (d : Document) :
    w.inspectDocument ⟨s, .empty, root, w.stack⟩ d =
      w.findings s root d (w.launch (s.requestFor root d.path)) := by
  have asked : Publisher.request ⟨s, .empty, root, w.stack⟩ (Publisher.empty.openView ⟨0, d⟩) d =
      (.started (s.requestFor root d.path), Inspection.startRecord (s.commandFor d.path),
        (Publisher.empty.openView ⟨0, d⟩).enter d.uri) := by
    have free : d.uri ∉ (Publisher.empty.openView ⟨0, d⟩).inFlight := List.not_mem_nil
    simp only [Publisher.request, free, if_false, Inspection.request?_empty timely]
  simp only [inspectDocument, asked, findings]
  generalize Publisher.finish _ _ _ d _ = ended
  obtain ⟨outcome, more, after⟩ := ended
  cases outcome <;> rfl

theorem findings_crashed {s : Settings} {d : Document} {message : String}
    {answer : Launch × List LogRecord} (crashed : answer.1 = .crashed message) :
    w.findings s root d answer = .error (.launcherCrash message) := by
  rw [findings, crashed]
  rfl

/-- What is found is what the launch reports. -/
theorem published_of_findings {s : Settings} {d : Document} {answer : Launch × List LogRecord}
    {f : Findings} (found : w.findings s root d answer = .ok f) :
    f.requests = [s.requestFor root d.path] ∧
      (∀ ds, answer.1.Reports w.stack ds → f.published = some ds) ∧
      ((¬ ∃ ds, answer.1.Reports w.stack ds) → f.published = none) := by
  have unflagged : d.uri ∉ ((Publisher.empty.openView ⟨0, d⟩).enter d.uri).closedInFlight :=
    List.not_mem_nil
  unfold findings at found
  cases ended : (Publisher.finish ⟨s, .empty, root, w.stack⟩ (w.hostAfter answer.1)
      ((Publisher.empty.openView ⟨0, d⟩).enter d.uri) d answer.1).1 with
  | error i =>
    simp only [ended, Except.map] at found
    cases found
  | ok published =>
    simp only [ended, Except.map, Except.ok.injEq] at found
    subst found
    exact ⟨rfl, fun ds reported => (Publisher.finish_reported unflagged ended reported).1,
      fun failed => (Publisher.finish_failed unflagged ended failed).1⟩

/-! ### Outcomes -/

theorem exit_of_failing {exitCode : Nat} {message : String}
    (ended : w.failing emoji exitCode message = .ok e) :
    e.exitCode = exitCode ∧ e.stdout = "" ∧ e.requests = [] := by
  obtain ⟨line, _, rest⟩ := bind_eq_ok_iff.mp ended
  cases rest
  exact ⟨rfl, rfl, rfl⟩

theorem exit_of_nothing {title : String} {format : Format} {threshold : LogLevel} {f : Findings}
    (nothing : f.published = none) (ended : w.report title format emoji threshold f = .ok e) :
    e.exitCode = 2 ∧ e.stdout = "" ∧ e.requests = f.requests := by
  simp only [report, nothing] at ended
  obtain ⟨line, _, rest⟩ := bind_eq_ok_iff.mp ended
  cases rest
  exact ⟨rfl, rfl, rfl⟩

/-- The number of errors decides the exit code, whatever the format is. -/
theorem exit_of_published {title : String} {format : Format} {threshold : LogLevel} {f : Findings}
    {ds : List Diagnostic} (published : f.published = some ds)
    (ended : w.report title format emoji threshold f = .ok e) :
    e.exitCode = (if (ds.filter fun d => d.severity == .error).length = 0 then 0 else 1) ∧
      (format = .json → e.stdout = Diagnostic.renderJson ds ++ "\n") ∧ e.requests = f.requests := by
  simp only [report, published] at ended
  cases format with
  | json =>
    cases ended
    exact ⟨rfl, fun _ => rfl, rfl⟩
  | pretty =>
    -- An unprintable table or status line leaves no execution at all.
    obtain ⟨shown, _, rest⟩ := bind_eq_ok_iff.mp ended
    split at rest
    · rename_i clean
      obtain ⟨line, _, rest⟩ := bind_eq_ok_iff.mp rest
      cases rest
      exact ⟨(if_pos clean).symm, nofun, rfl⟩
    · rename_i flawed
      obtain ⟨line, _, rest⟩ := bind_eq_ok_iff.mp rest
      cases rest
      exact ⟨(if_neg flawed).symm, nofun, rfl⟩

/-- The settings of the project are rejected. -/
def Rejects (w : World) (root : Path) (explicit : Members) : Prop :=
  ∃ f, Settings.load w.stack w.files w.environment root explicit = .error f ∧
    f.isConfiguration = true

/-- The launch that an inspection of the file comes to. -/
def Runs (w : World) (file root : Path) (explicit : Members) (launch : Launch) : Prop :=
  ∃ loaded, Settings.load w.stack w.files w.environment root explicit = .ok loaded ∧
    launch = (w.launch (loaded.settings.requestFor root file.text)).1

/-- A bad format or configuration is told at once, whatever runs the linter. -/
theorem inspect_refused (file : Path) (emoji verbose : Bool)
    (why : Format.ofName? formatName = none ∨ w.Rejects root (overrides strict timeout)) :
    ∃ message, ∀ launch, { w with launch := launch }.inspect file root formatName strict timeout
      emoji verbose = w.failing emoji 2 message := by
  cases known : Format.ofName? formatName with
  | none =>
    refine ⟨"unsupported format '" ++ formatName ++ "'", fun launch => ?_⟩
    simp only [inspect, known]
    rfl
  | some format =>
    obtain unknown | ⟨f, failed, configuration⟩ := why
    · rw [known] at unknown
      cases unknown
    · refine ⟨f.message, fun launch => ?_⟩
      simp only [inspect, known, failed, configuration, if_true]
      rfl

/-- What a command makes of its findings. -/
def tell (w : World) (title : String) (format : Format) (emoji : Bool) (threshold : LogLevel) :
    Except Interruption Findings → Except CommandFailure Execution
  | .error i => .error (.interrupted i)
  | .ok f => w.report title format emoji threshold f

theorem exists_of_tell {title : String} {format : Format} {threshold : LogLevel}
    {found : Except Interruption Findings}
    (ended : w.tell title format emoji threshold found = .ok e) :
    ∃ f, found = .ok f ∧ w.report title format emoji threshold f = .ok e := by
  cases found with
  | error i => cases ended
  | ok f => exact ⟨f, rfl, ended⟩

/-- With a format and settings, the answer to one request is reported. -/
theorem inspect_of_load {format : Format} {loaded : Loaded} {d : Document}
    (known : Format.ofName? formatName = some format)
    (loads : Settings.load w.stack w.files w.environment root (overrides strict timeout) =
      .ok loaded)
    (place : Document.ofPath? Document.systemLinks root file.text = some d) :
    w.inspect file root formatName strict timeout emoji verbose =
      w.tell file.text format emoji (.threshold verbose false) (w.findings loaded.settings root d
        (w.launch (loaded.settings.requestFor root file.text))) := by
  have timely := (Settings.isValid_of_load loads).isTimely
  have asked := inspectDocument_eq w timely root d
  rw [Document.path_of_ofPath? place] at asked
  cases found : w.findings loaded.settings root d
      (w.launch (loaded.settings.requestFor root file.text)) with
  | error i => simp only [inspect, known, loads, place, asked, found, tell]
  | ok f => simp only [inspect, known, loads, place, asked, found, tell]

/-- A command that is not refused ends with what was found. -/
theorem exists_report_of_inspect
    (fit : ¬ (Format.ofName? formatName = none ∨ w.Rejects root (overrides strict timeout)))
    (ended : w.inspect file root formatName strict timeout emoji verbose = .ok e) :
    ∃ format launch f, Format.ofName? formatName = some format ∧
      w.Runs file root (overrides strict timeout) launch ∧
      (∀ ds, launch.Reports w.stack ds → f.published = some ds) ∧
      ((¬ ∃ ds, launch.Reports w.stack ds) → f.published = none) ∧
      w.report file.text format emoji (.threshold verbose false) f = .ok e := by
  obtain ⟨named, accepted⟩ := not_or.mp fit
  obtain ⟨format, known⟩ := Option.ne_none_iff_exists'.mp named
  cases loads : Settings.load w.stack w.files w.environment root (overrides strict timeout) with
  | error g =>
    -- What is no error of the configuration passes through and leaves no execution.
    have other : g.isConfiguration = false :=
      Bool.not_eq_true _ ▸ fun configuration => accepted ⟨g, loads, configuration⟩
    simp only [inspect, known, loads, other] at ended
    cases ended
  | ok loaded =>
    cases place : Document.ofPath? Document.systemLinks root file.text with
    | none =>
      simp only [inspect, known, loads, place] at ended
      cases ended
    | some d =>
      rw [inspect_of_load known loads place] at ended
      obtain ⟨f, found, shown⟩ := exists_of_tell ended
      obtain ⟨_, reports, nothing⟩ := published_of_findings found
      exact ⟨format, _, f, known, ⟨loaded, loads, rfl⟩, reports, nothing, shown⟩

theorem runs_unique {explicit : Members} {launch other : Launch}
    (runs : w.Runs file root explicit launch) (again : w.Runs file root explicit other) :
    other = launch := by
  obtain ⟨loaded, loads, rfl⟩ := runs
  obtain ⟨reloaded, reloads, rfl⟩ := again
  rw [loads] at reloads
  cases reloads
  rfl

/-- What the exit code says of the issues of a report. -/
theorem exitCode_iff {issues : List Issue} {ds : List Diagnostic} {exitCode : Nat}
    (mapped : Diagnostic.ofIssues issues = .ok ds)
    (counted : exitCode =
      if (ds.filter fun d => d.severity == .error).length = 0 then 0 else 1) :
    exitCode ≠ 2 ∧ (exitCode = 1 ↔ ∃ i ∈ issues, i.priority = 1) ∧
      (exitCode = 0 ↔ ∀ i ∈ issues, i.priority ≠ 1) := by
  have worst : (ds.filter fun d => d.severity == .error).length = 0 ↔
      ¬ ∃ i ∈ issues, i.priority = 1 := by
    rw [← show Severity.error.priority = 1 from rfl, ← Diagnostic.exists_severity_iff mapped]
    simp
  subst counted
  by_cases none : (ds.filter fun d => d.severity == .error).length = 0
  · have clean := worst.mp none
    rw [if_pos none]
    exact ⟨by decide, iff_of_false (by decide) clean, iff_of_true rfl (by simpa using clean)⟩
  · have flawed := not_not.mp (mt worst.mpr none)
    rw [if_neg none]
    exact ⟨by decide, iff_of_true rfl flawed, iff_of_false (by decide) (by simpa using flawed)⟩

/-- What the command tells by its exit code and prints. -/
structure Exits (w : World) (file root : Path) (formatName : String) (strict : Option Bool)
    (timeout : Option Binary64) (emoji verbose : Bool) (e : Execution) : Prop where
  failed_iff : e.exitCode = 2 ↔ lowered formatName ∉ ["pretty", "json"] ∨
    w.Rejects root (overrides strict timeout) ∨
    ∃ launch, w.Runs file root (overrides strict timeout) launch ∧ ¬ ∃ ds, launch.Reports w.stack ds
  silent : e.exitCode = 2 → e.stdout = ""
  unlaunched : lowered formatName ∉ ["pretty", "json"] ∨
    w.Rejects root (overrides strict timeout) → e.requests = [] ∧ ∀ launch,
      { w with launch := launch }.inspect file root formatName strict timeout emoji verbose = .ok e
  reported : e.exitCode ≠ 2 → ∃ stdout code issues ds,
    w.Runs file root (overrides strict timeout) (.finished stdout "" code) ∧
    Report.read w.stack stdout = .ok issues ∧ Diagnostic.ofIssues issues = .ok ds ∧
    (e.exitCode = 1 ↔ ∃ i ∈ issues, i.priority = 1) ∧
    (e.exitCode = 0 ↔ ∀ i ∈ issues, i.priority ≠ 1) ∧
    (lowered formatName = "json" → e.stdout = Diagnostic.renderJson ds ++ "\n" ∧
      Json.read w.stack e.stdout.toList = .ok (.list (ds.map Diagnostic.toPayload)))

theorem exits_of_refused (why : lowered formatName ∉ ["pretty", "json"] ∨
      w.Rejects root (overrides strict timeout))
    (ended : w.inspect file root formatName strict timeout emoji verbose = .ok e) :
    Exits w file root formatName strict timeout emoji verbose e := by
  obtain ⟨message, told⟩ := inspect_refused file emoji verbose
    (why.imp_left Format.ofName?_eq_none_iff.mpr)
  have failed : w.failing emoji 2 message = .ok e := (told w.launch).symm.trans ended
  obtain ⟨exitCode, stdout, requests⟩ := exit_of_failing failed
  exact
    { failed_iff := iff_of_true exitCode (or_assoc.mp (.inl why))
      silent := fun _ => stdout
      unlaunched := fun _ => ⟨requests, fun launch => (told launch).trans failed⟩
      reported := fun other => absurd exitCode other }

theorem exits_of_inspect
    (ended : w.inspect file root formatName strict timeout emoji verbose = .ok e) :
    Exits w file root formatName strict timeout emoji verbose e := by
  by_cases refused : lowered formatName ∉ ["pretty", "json"] ∨
      w.Rejects root (overrides strict timeout)
  · exact exits_of_refused refused ended
  · have fit := mt (Or.imp_left Format.ofName?_eq_none_iff.mp) refused
    obtain ⟨format, launch, f, known, runs, reports, nothing, shown⟩ :=
      exists_report_of_inspect fit ended
    by_cases reported : ∃ ds, launch.Reports w.stack ds
    · obtain ⟨ds, stdout, code, issues, rfl, read, mapped⟩ := reported
      have published := reports ds ⟨stdout, code, issues, rfl, read, mapped⟩
      obtain ⟨counted, json, _⟩ := exit_of_published published shown
      obtain ⟨success, errors, clean⟩ := exitCode_iff mapped counted
      refine
        { failed_iff := iff_of_false success ?_
          silent := fun failed => absurd failed success
          unlaunched := fun why => absurd why refused
          reported := fun _ => ⟨stdout, code, issues, ds, runs, read, mapped, errors, clean,
            fun name => ?_⟩ }
      · rintro (unknown | rejects | ⟨other, again, failed⟩)
        · exact refused (.inl unknown)
        · exact refused (.inr rejects)
        · rw [runs_unique runs again] at failed
          exact failed ⟨ds, stdout, code, issues, rfl, read, mapped⟩
      · have printed := json (Option.some.inj (known.symm.trans (Format.ofName?_eq_json name)))
        rw [printed]
        exact ⟨rfl,
          Diagnostic.read_renderJson_line (Report.isPublishable_of_read read mapped) w.stack⟩
    · obtain ⟨exitCode, stdout, _⟩ := exit_of_nothing (nothing reported) shown
      exact
        { failed_iff := iff_of_true exitCode (.inr (.inr ⟨launch, runs, reported⟩))
          silent := fun _ => stdout
          unlaunched := fun why => absurd why refused
          reported := fun other => absurd exitCode other }

/-- No configuration, and a linter that reports one issue of priority 1. -/
def oneError : World :=
  ⟨.empty ["home"], [], 80, .usual, fun _ =>
    (.finished
      "\x7b\"issues\": [\x7b\"category\": \"design\", \"check\": \"A\", \"line_no\": \"2\",
        \"message\": \"m\", \"priority\": 1\x7d]\x7d" "" (some 0), [])⟩

theorem exits_with_error :
    ∃ e, oneError.inspect (Path.ofText "lib/a.ex") (Path.ofText ".") "JSON" (some false) none true
        false = .ok e ∧ e.exitCode = 1 ∧
      e.requests = [Settings.default.requestFor (Path.ofText ".") "lib/a.ex"] ∧
      Exits oneError (Path.ofText "lib/a.ex") (Path.ofText ".") "JSON" (some false) none true false
        e := by
  have ran : (oneError.inspect (Path.ofText "lib/a.ex") (Path.ofText ".") "JSON" (some false) none
      true false).toOption.map (fun e => (e.exitCode, e.requests)) =
        some (1, [Settings.default.requestFor (Path.ofText ".") "lib/a.ex"]) := by
    decide +kernel
  cases ended : oneError.inspect (Path.ofText "lib/a.ex") (Path.ofText ".") "JSON" (some false) none
    true false with
  | error failure =>
    rw [ended] at ran
    cases ran
  | ok e =>
    rw [ended] at ran
    obtain ⟨exitCode, requests⟩ := Prod.mk.inj (Option.some.inj ran)
    exact ⟨e, rfl, exitCode, requests, exits_of_inspect ended⟩

end World

end Console

end CredoAssistant
