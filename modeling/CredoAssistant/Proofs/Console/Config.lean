import CredoAssistant.Proofs.Console.Inspect

/-!
The command `config` and what it says about `inspect`. The settings that `config` shows are those
that an inspection of the project runs with: of all that is asked of the launcher, options of the
command line replace the strictness and the time limit, and only when they are given. A time limit
that is no number is refused with the settings, so nothing is asked of the launcher then.
-/
namespace CredoAssistant

theorem Document.exists_ofPath? {root file : Path} (links : Links) (project : root.hasNull = false)
    (named : file.hasNull = false) : ∃ d, Document.ofPath? links root file.text = some d := by
  have clean : (root.join (Path.ofText file.text)).hasNull = false :=
    Path.hasNull_join project (Path.hasNull_ofText (Path.null_notMem_text named))
  rw [Document.ofPath?]
  simp only [clean, Bool.false_eq_true, if_false]
  exact ⟨_, rfl⟩

theorem Value.optional_eq_elim {α : Type} (f : α → Value) (o : Option α) :
    optional f o = o.elim .null f := by
  cases o <;> rfl

namespace Console

/-- A command, given what runs the linter, calls for one launch: a crash of this launch ends the
command, how any other launch would end does not matter, and the launch is the only one on record.
-/
structure Calls (run : (LaunchRequest → Launch × List LogRecord) → Except CommandFailure Execution)
    (q : LaunchRequest) : Prop where
  reached : ∀ launch message, (launch q).1 = .crashed message →
    run launch = .error (.interrupted (.launcherCrash message))
  alone : ∀ launch other, other q = launch q → run other = run launch
  once : ∀ launch e, run launch = .ok e → e.requests = [q]

namespace World

variable {w : World} {file root : Path} {formatName : String} {strict : Option Bool}
  {timeout : Option Binary64}

/-- An inspection with settings calls for the launch that they ask for. -/
theorem calls_of_load {format : Format} {loaded : Loaded} {d : Document} (emoji verbose : Bool)
    (known : Format.ofName? formatName = some format)
    (loads : Settings.load w.stack w.files w.environment root (overrides strict timeout) =
      .ok loaded)
    (place : Document.ofPath? Document.systemLinks root file.text = some d) :
    Calls (fun launch =>
        { w with launch := launch }.inspect file root formatName strict timeout emoji verbose)
      (loaded.settings.requestFor root file.text) := by
  have ran (launch : LaunchRequest → Launch × List LogRecord) :
      { w with launch := launch }.inspect file root formatName strict timeout emoji verbose =
        w.tell file.text format emoji (.threshold verbose false) (w.findings loaded.settings root d
          (launch (loaded.settings.requestFor root file.text))) :=
    inspect_of_load (w := { w with launch := launch }) known loads place
  refine ⟨fun launch message crashed => ?_, fun launch other same => ?_, fun launch e ended => ?_⟩
  · rw [ran, findings_crashed crashed, tell]
  · rw [ran, ran, same]
  · obtain ⟨f, found, shown⟩ := exists_of_tell ((ran launch).symm.trans ended)
    obtain ⟨requests, _⟩ := published_of_findings found
    rw [Document.path_of_ofPath? place] at requests
    cases published : f.published with
    | none => exact (exit_of_nothing published shown).2.2.trans requests
    | some ds => exact (exit_of_published published shown).2.2.trans requests

/-- What is shown of the sources: every field with the name of its source. -/
theorem sources_of_configValue {loaded : Loaded}
    (fields : (Entries.keys loaded.provenance).Perm Settings.fields) :
    ∃ sources, configValue loaded true =
        .object [("settings", loaded.settings.toValue), ("sources", .object sources)] ∧
      (Entries.keys sources).Perm Settings.fields ∧
      ∀ f : Settings.Field, Entries.get? f.name sources =
        (Entries.get? f.name loaded.provenance).map .text := by
  have sorted := List.mergeSort_perm loaded.provenance fun a b => decide (a.1 ≤ b.1)
  have keys : (Entries.keys (loaded.provenance.mergeSort fun a b => decide (a.1 ≤ b.1))).Perm
      (Entries.keys loaded.provenance) := sorted.map Prod.fst
  have distinct : (Entries.keys loaded.provenance).Nodup := fields.nodup_iff.mpr (by decide)
  refine ⟨_, rfl, ?_, fun f => ?_⟩
  · simpa [Entries.keys, Function.comp_def] using keys.trans fields
  · have kept : Entries.get? f.name
        (loaded.provenance.mergeSort fun a b => decide (a.1 ≤ b.1)) =
          Entries.get? f.name loaded.provenance := by
      refine Option.ext fun name => ?_
      rw [Entries.get?_eq_some_iff (keys.nodup_iff.mpr distinct), Entries.get?_eq_some_iff distinct,
        sorted.mem_iff]
    exact (Entries.get?_map_values Value.text f.name _).trans (congrArg _ kept)

/-- A time limit that is no number makes the settings of any project unsound. -/
theorem rejects_nan {loaded : Loaded}
    (loads : Settings.load w.stack w.files w.environment root [] = .ok loaded)
    (strict : Option Bool) : w.Rejects root (overrides strict (some .nan)) := by
  obtain ⟨layers, complete, same⟩ := exists_layers_of_load loads
  have given : (Entries.keys (overrides strict (some .nan))).Nodup := by
    simp [overrides, Entries.keys]
  have merged : Entries.get? (Settings.Field.name .timeout)
      (Layer.merge (Layer.withOverrides layers (overrides strict (some .nan)))) =
        some (.float .nan) := by
    rw [Layer.get?_merge_withOverrides given, get?_overrides_options]
    rfl
  cases again : Layer.load layers (overrides strict (some .nan)) with
  | error f => exact ⟨f, (same _).trans again, load_layers complete.present again⟩
  | ok reloaded =>
    have held := Layer.holds_of_load complete.present again .timeout
    rw [merged] at held
    cases held

/-- The members that show settings: every field in its order, with what it holds. -/
structure Prints (s : Settings) (ms : Members) : Prop where
  names : Entries.keys ms = ["launcher", "command", "extra_args", "strict", "config_name",
    "timeout", "clear_on_failure", "syntaxes", "event"]
  launcher : Entries.get? "launcher" ms = some (.text s.launcher)
  command : Entries.get? "command" ms = some (.list (s.command.map .text))
  extraArgs : Entries.get? "extra_args" ms = some (.list (s.extraArgs.map .text))
  strict : Entries.get? "strict" ms = some (.bool s.strict)
  configName : Entries.get? "config_name" ms = some (s.configName.elim .null .text)
  timeout : Entries.get? "timeout" ms = some (s.timeout.elim .null .float)
  clearOnFailure : Entries.get? "clear_on_failure" ms = some (.bool s.clearOnFailure)
  syntaxes : Entries.get? "syntaxes" ms = some (.list (s.syntaxes.map .text))
  event : Entries.get? "event" ms = some (.text s.event)

theorem prints_toMembers (s : Settings) : Prints s s.toMembers := by
  constructor
  case configName => exact congrArg some (Value.optional_eq_elim .text s.configName)
  case timeout => exact congrArg some (Value.optional_eq_elim .float s.timeout)
  all_goals rfl

/-- The words of an inspection of a file: a launcher unless it is empty, the command, the wish for a
report in JSON, that for strictness, the name of a configuration unless it is empty, further words,
and the file. -/
def words (s : Settings) (strict : Bool) (file : String) : List String :=
  (if s.launcher = "" then [] else [s.launcher]) ++ s.command ++ ["--format", "json"] ++
    (if strict then ["--strict"] else []) ++
    (if s.configName.getD "" = "" then [] else ["--config-name", s.configName.getD ""]) ++
    s.extraArgs ++ [file]

theorem commandFor_eq_words (s : Settings) (strict : Bool) (file : String) :
    { s with strict := strict }.commandFor file = words s strict file := by
  cases named : s.configName with
  | none => simp [Settings.commandFor, Settings.options, words, named]
  | some name => simp [Settings.commandFor, Settings.options, words, named]

/-- `config` shows the settings of the project and where each field comes from. Whatever options are
given, `inspect` calls for the launch that these settings ask for, but for what the options replace.
A time limit that is no number is refused, whatever runs the linter. -/
structure Agrees (w : World) (root : Path) (loaded : Loaded) : Prop where
  shown : ∃ settings, w.config root false = .ok ⟨0, Json.render .indented
      (.object [("settings", .object settings)]) ++ "\n", "", [], []⟩ ∧
    Prints loaded.settings settings
  traced : ∃ settings sources, w.config root true = .ok ⟨0, Json.render .indented
      (.object [("settings", .object settings), ("sources", .object sources)]) ++ "\n", "", [],
        []⟩ ∧
    Prints loaded.settings settings ∧ (Entries.keys sources).Perm (Entries.keys settings) ∧
    ∀ f : Settings.Field, Entries.get? f.name sources =
      (Entries.get? f.name loaded.provenance).map .text
  options : ∀ number? named file strict limit timeout, Path.ofText (named.getD ".") = root →
    root.hasNull = false → (Path.ofText file).hasNull = false → file.toList.head? ≠ some '-' →
    Limits number? limit timeout →
      Request.ofArguments number?
          ("inspect" :: (withValue "--root" named ++ afterRoot strict limit file)) =
        .ok (.inspect (Path.ofText file) root "pretty" strict timeout true false)
  calls : ∀ number? args file formatName strict timeout emoji verbose,
    Request.ofArguments number? args =
        .ok (.inspect file root formatName strict timeout emoji verbose) →
    lowered formatName ∈ ["pretty", "json"] → timeout ≠ some .nan →
      Calls (fun launch =>
          { w with launch := launch }.inspect file root formatName strict timeout emoji verbose)
        ⟨words loaded.settings (strict.getD loaded.settings.strict) file.text,
          ⟨some root, none, (timeout <|> loaded.settings.timeout).map .number⟩⟩
  refused : ∀ file formatName strict emoji verbose, ∃ message, ∀ launch,
    { w with launch := launch }.inspect file root formatName strict (some .nan) emoji verbose =
      w.failing emoji 2 message

theorem agrees_of_load {loaded : Loaded}
    (loads : Settings.load w.stack w.files w.environment root [] = .ok loaded) :
    Agrees w root loaded := by
  have fields : (Entries.keys loaded.provenance).Perm Settings.fields := by
    obtain ⟨layers, complete, same⟩ := exists_layers_of_load loads
    exact Layer.keys_provenance_perm complete ((same []).symm.trans loads) List.nodup_nil
  obtain ⟨sources, written, names, kept⟩ := sources_of_configValue fields
  have printed := prints_toMembers loaded.settings
  constructor
  case shown => exact ⟨_, by simp only [config, loads]; rfl, printed⟩
  case traced =>
    have each : Settings.fields = Entries.keys loaded.settings.toMembers := printed.names.symm
    exact ⟨_, sources, by simp only [config, loads, written]; rfl, printed, each ▸ names, kept⟩
  case options =>
    rintro number? named file strict limit timeout rfl project path other limits
    rw [ofArguments_options other number? named strict limit project path,
      readTimeout_eq_ok_iff.mpr limits]
    rfl
  case calls =>
    intro number? args file formatName strict timeout emoji verbose accepted named number
    obtain ⟨path, project, above⟩ := inspectable_of_ofArguments accepted
    have sign : ∀ t ∈ timeout, t.isNonNegative = true := by
      rintro t ⟨⟩
      exact Validation.isNonNegative_of_ne_nan (fun same => number (congrArg some same))
        (above t rfl)
    obtain ⟨format, known⟩ := Option.ne_none_iff_exists'.mp
      (mt Format.ofName?_eq_none_iff.mp (not_not.mpr named))
    obtain ⟨provenance, options⟩ := load_options loads strict sign
    obtain ⟨d, place⟩ := Document.exists_ofPath? Document.systemLinks project path
    have calls := calls_of_load emoji verbose known options place
    rw [← commandFor_eq_words]
    exact calls
  case refused =>
    exact fun file formatName strict emoji verbose =>
      inspect_refused file emoji verbose (.inr (rejects_nan loads strict))

/-- A project whose environment asks for strictness and a time limit. -/
def demanding : World :=
  ⟨.empty ["home"], [("CREDO_BRIDGE_STRICT", "yes"), ("CREDO_BRIDGE_TIMEOUT", "2.5")], 80, .usual,
    fun _ => (.crashed "no linter", [])⟩

def demanded : Loaded :=
  ⟨{ Settings.default with strict := true, timeout := some (.ofDecimal false 25 (-1)) },
    [("launcher", "defaults"), ("command", "defaults"), ("extra_args", "defaults"),
      ("strict", "environment"), ("config_name", "defaults"), ("timeout", "environment"),
      ("clear_on_failure", "defaults"), ("syntaxes", "defaults"), ("event", "defaults")]⟩

/-- The options of the command line take away what the environment asks for. -/
theorem agrees_demanding :
    Settings.load .usual demanding.files demanding.environment (Path.ofText ".") [] =
        .ok demanded ∧
      Request.ofArguments readNumber? ["inspect", "--no-strict", "--timeout", "0", "lib/a.ex"] =
        .ok (.inspect (Path.ofText "lib/a.ex") (Path.ofText ".") "pretty" (some false)
          (some (.zero false)) true false) ∧
      Agrees demanding (Path.ofText ".") demanded :=
  have loads : Settings.load .usual demanding.files demanding.environment (Path.ofText ".") [] =
      .ok demanded := by
    decide +kernel
  ⟨loads, by decide +kernel, agrees_of_load loads⟩

/-- What fails with a message calls for no launch. -/
theorem not_calls_of_failing {emoji : Bool} {exitCode : Nat} {message : String}
    {run : (LaunchRequest → Launch × List LogRecord) → Except CommandFailure Execution}
    (told : ∀ launch, run launch = w.failing emoji exitCode message) (q : LaunchRequest) :
    ¬ Calls run q := fun calls => by
  have crashed := calls.reached (fun _ => (.crashed "", [])) "" rfl
  rw [told] at crashed
  have other (fault : Terminal.CellFault) :
      CommandFailure.interrupted (.launcherCrash "") ≠ .unprintable fault := nofun
  exact failing_ne_error w emoji exitCode message other crashed

/-- `--timeout nan` leads to no launch: it is no number for the reader of options, or it is one that
the settings refuse. -/
theorem unlaunched_nan :
    (∀ number? : NumberReader, number? "nan" = none →
      Request.ofArguments number? ["inspect", "--timeout", "nan", "lib/a.ex"] =
        .error (.badTimeout "nan")) ∧
    (∀ number? : NumberReader, number? "nan" = some .nan →
      Request.ofArguments number? ["inspect", "--timeout", "nan", "lib/a.ex"] =
        .ok (.inspect (Path.ofText "lib/a.ex") (Path.ofText ".") "pretty" none (some .nan) true
          false)) ∧
    Settings.load .usual demanding.files demanding.environment (Path.ofText ".") [] =
        .ok demanded ∧
    (∀ q, ¬ Calls (fun launch => { demanding with launch := launch }.inspect
      (Path.ofText "lib/a.ex") (Path.ofText ".") "pretty" none (some .nan) true false) q) ∧
    ∀ e, demanding.inspect (Path.ofText "lib/a.ex") (Path.ofText ".") "pretty" none (some .nan) true
      false = .ok e → e.exitCode = 2 ∧ e.requests = [] := by
  have options (number? : NumberReader) :
      Request.ofArguments number? ["inspect", "--timeout", "nan", "lib/a.ex"] =
        (readTimeout number? (some "nan")).map fun timeout =>
          .inspect (Path.ofText "lib/a.ex") (Path.ofText ".") "pretty" none timeout true false :=
    ofArguments_options (by decide) number? none none (some "nan") (by decide) (by decide)
  have loads : Settings.load .usual demanding.files demanding.environment (Path.ofText ".") [] =
      .ok demanded := by
    decide +kernel
  have why : Format.ofName? "pretty" = none ∨
      demanding.Rejects (Path.ofText ".") (overrides none (some .nan)) :=
    .inr (rejects_nan (w := demanding) loads none)
  obtain ⟨message, told⟩ := inspect_refused (Path.ofText "lib/a.ex") true false why
  refine ⟨fun number? none => ?_, fun number? some => ?_, loads, not_calls_of_failing told,
    fun e ended => ?_⟩
  · rw [options, readTimeout, none]
    rfl
  · rw [options, readTimeout, some]
    rfl
  · obtain ⟨exitCode, _, requests⟩ := exit_of_failing ((told demanding.launch).symm.trans ended)
    exact ⟨exitCode, requests⟩

end World

end Console

end CredoAssistant
