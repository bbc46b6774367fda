import CredoAssistant.Proofs.Settings.CommandLine
import CredoAssistant.Proofs.Settings.Scopes
import CredoAssistant.Proofs.Settings.Standard
import CredoAssistant.Publisher

/-!
What an inspection asks the launcher for. Settings that were checked name a command and hold no
negative time limit, and options that were checked hold none either; so with both there is always a
request, whatever the file is, and the checks on the way to the launcher refuse nothing.
-/
namespace CredoAssistant

namespace Settings

/-- Settings that can come about: read from a value, loaded from layers or from the files of a
project, or resolved from the preferences of an editor on top of other such settings. -/
inductive Obtained : Settings → Prop
  | read {v : Value} {s : Settings} (accepted : ofValue v = .ok s) : Obtained s
  | loaded {layers : List Layer} {explicit : Members} {loaded : Loaded}
      (loads : Layer.load layers explicit = .ok loaded) : Obtained loaded.settings
  | project {stack : Stack} {files : FileTree} {env : Environment} {root : Path}
      {explicit : Members} {loaded : Loaded}
      (loads : Settings.load stack files env root explicit = .ok loaded) :
      Obtained loaded.settings
  | resolved {scopes : Scopes} {base s : Settings} (seed : Obtained base)
      (resolves : scopes.settings base = .ok s) : Obtained s

theorem isValid_of_ofValue {v : Value} {s : Settings} (accepted : ofValue v = .ok s) :
    s.IsValid := by
  cases v with
  | object ms => exact isValid_iff.mpr ⟨ms, accepted⟩
  | _ => cases accepted

theorem isValid_of_layers {layers : List Layer} {explicit : Members} {loaded : Loaded}
    (loads : Layer.load layers explicit = .ok loaded) : loaded.settings.IsValid := by
  have present : layers ≠ [] := by
    rintro rfl
    cases loads
  exact isValid_iff.mpr ⟨_, ((Layer.load_eq_ok_iff present).mp loads).1⟩

theorem Obtained.isValid {s : Settings} (obtained : s.Obtained) : s.IsValid := by
  induction obtained with
  | read accepted => exact isValid_of_ofValue accepted
  | loaded loads => exact isValid_of_layers loads
  | project loads => exact isValid_of_load loads
  | resolved seed resolves ih =>
    rw [Scopes.settings_eq ih] at resolves
    exact isValid_iff.mpr ⟨_, resolves⟩

theorem getLast?_commandFor (s : Settings) (file : String) :
    (s.commandFor file).getLast? = some file := by
  rw [commandFor, List.getLast?_concat]

end Settings

namespace Inspection

/-- An inspection of `file` in `root` that comes to a launch: it has a command line, its options
pass their checks, and the launcher gets both. -/
structure Invocable (s : Settings) (o : ProcessOptions) (root : Path) (file : String) : Prop where
  task : s.command ≠ []
  nonempty : s.commandFor file ≠ []
  last : (s.commandFor file).getLast? = some file
  line : ∃ line, Shell.commandLine? (s.commandFor file) = some line ∧
    Shell.split line = .ok (s.commandFor file)
  launched : ∃ given : ProcessOptions,
    o.withOverrides? (some root) (s.timeout.map .number) = some given ∧
      request? s o root file = some ⟨s.commandFor file, given⟩ ∧
      (∀ (stack : Stack) (p : Publisher) (d : Document), d.path = file → d.uri ∉ p.inFlight →
        (Publisher.request ⟨s, o, root, stack⟩ p d).1 = .started ⟨s.commandFor file, given⟩) ∧
      given.cwd = some root ∧ given.env = o.env ∧
      (∀ t, s.timeout = some t → given.timeout = some (.number t)) ∧
      (s.timeout = none → given.timeout = o.timeout)

/-- Settings and options that can come about never keep an inspection from its launch. -/
theorem invocable_of_obtained {s : Settings} {o : ProcessOptions} (obtained : s.Obtained)
    (made : o.Made) (root : Path) (file : String) : Invocable s o root file := by
  have valid := obtained.isValid
  have asked := request?_eq valid.isTimely made.isValid root file
  obtain ⟨line, written⟩ := Shell.exists_commandLine? (s.commandFor_ne_nil file)
  constructor
  case task => exact valid.command
  case nonempty => exact s.commandFor_ne_nil file
  case last => exact s.getLast?_commandFor file
  case line => exact ⟨line, written, Shell.split_of_commandLine? written⟩
  case launched =>
    refine ⟨optionsIn s o root, withOverrides?_eq valid.isTimely made.isValid root, asked, ?_, rfl,
      rfl, fun t limit => ?_, fun absent => ?_⟩
    · rintro stack p d rfl free
      simp only [Publisher.request, if_neg free, asked]
    · simp only [optionsIn, limit, Option.map_some]
      rfl
    · simp only [optionsIn, absent, Option.map_none]
      rfl

/-- A negative zero from the preferences counts as a time limit, over one that is no number. -/
theorem invocable_negativeZero :
    ∃ (loaded : Loaded) (s : Settings) (o moved : ProcessOptions),
      Layer.load [⟨"project", [("command", .text "mix 'credo lint'"), ("timeout", .text "inf")]⟩]
        [("launcher", .text "")] = .ok loaded ∧
      Scopes.settings ⟨[("credo.timeout", .float (.zero false))], [("credo.timeout", .text "-0.0")]⟩
        loaded.settings = .ok s ∧
      ProcessOptions.mk? none (some [("MIX_ENV", "test")]) (some (.number .nan)) = some o ∧
      o.withOverrides? (some (Path.ofText "/tmp")) none = some moved ∧
      (s.command, s.timeout, moved.timeout) =
        (["mix", "credo lint"], some (.zero true), some (.number .nan)) ∧
      Invocable s moved (Path.ofText "/proj") "lib/it's.ex" := by
  have loads : Layer.load
      [⟨"project", [("command", .text "mix 'credo lint'"), ("timeout", .text "inf")]⟩]
      [("launcher", .text "")] =
      .ok ⟨{ Settings.default with
          launcher := "", command := ["mix", "credo lint"], timeout := some (.infinite false) },
        [("command", "project"), ("timeout", "project"), ("launcher", "overrides")]⟩ := by
    decide +kernel
  have resolves : Scopes.settings
      ⟨[("credo.timeout", .float (.zero false))], [("credo.timeout", .text "-0.0")]⟩
      { Settings.default with
        launcher := "", command := ["mix", "credo lint"], timeout := some (.infinite false) } =
      .ok { Settings.default with
        launcher := "", command := ["mix", "credo lint"], timeout := some (.zero true) } := by
    decide +kernel
  have accepted : ProcessOptions.mk? none (some [("MIX_ENV", "test")]) (some (.number .nan)) =
      some ⟨none, some [("MIX_ENV", "test")], some (.number .nan)⟩ := rfl
  have moves : ProcessOptions.withOverrides? ⟨none, some [("MIX_ENV", "test")], some (.number .nan)⟩
      (some (Path.ofText "/tmp")) none =
      some ⟨some (Path.ofText "/tmp"), some [("MIX_ENV", "test")], some (.number .nan)⟩ := rfl
  exact ⟨_, _, _, _, loads, resolves, accepted, moves, rfl,
    invocable_of_obtained (.resolved (.loaded loads) resolves)
      (.overridden (.given accepted) moves) _ _⟩

end Inspection

end CredoAssistant
