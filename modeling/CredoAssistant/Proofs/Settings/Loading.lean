import CredoAssistant.Console.Command
import CredoAssistant.Proofs.Text.Utf8
import CredoAssistant.Proofs.Toml.Reader

/-!
What comes of loading settings. It ends in settings or in an error of the configuration, except
where a file cannot be read as a document at all: its path is too long for the system, its bytes are
those of no text, an integer in it is too long to be converted, or its values nest too deep. The
commands pass these failures on, while they show errors of the configuration with an exit code of
their own.
-/
namespace CredoAssistant

variable {stack : Stack} {files : FileTree} {env : Environment} {root path : Path}
  {explicit : Members}
  {f : LoadFailure}

/-- How the document at a path fails to be one, apart from what it says. -/
inductive Defies (stack : Stack) (files : FileTree) (path : Path) : LoadFailure → Prop
  | tooLong {e : SystemError} (refused : files.contents? path = .error e) :
      Defies stack files path (.system e)
  | noText {bytes : List UInt8} {u : Utf8.Undecodable}
      (present : files.contents? path = .ok (some bytes)) (foreign : ∀ cs, Utf8.encode cs ≠ bytes)
      (flaw : Utf8.decode bytes = .error u) : Defies stack files path (.undecodable u)
  | oversized {cs : List Char} {n : Nat}
      (present : files.contents? path = .ok (some (Utf8.encode cs)))
      (met : Toml.read stack (Toml.normalizeLineEnds cs) = .error (.oversizedInteger n)) :
      Defies stack files path (.oversizedInteger n)
  | deep {cs : List Char} (present : files.contents? path = .ok (some (Utf8.encode cs)))
      (met : Toml.read stack (Toml.normalizeLineEnds cs) = .error .tooDeep) :
      Defies stack files path .tooDeep

/-- A document fails otherwise than by its configuration exactly when it defies reading. -/
theorem readDocument_defies_iff :
    (Source.readDocument stack files path = .error f ∧ f.isConfiguration = false) ↔
      Defies stack files path f := by
  constructor
  · rintro ⟨failed, other⟩
    unfold Source.readDocument at failed
    split at failed
    · rename_i e refused
      cases failed
      exact .tooLong refused
    · cases failed
    · rename_i bytes present
      unfold Source.parseDocument at failed
      split at failed
      · rename_i u flaw
        cases failed
        refine .noText present (fun cs same => ?_) flaw
        rw [← same, Utf8.decode_encode] at flaw
        cases flaw
      · rename_i cs decoded
        obtain rfl := Utf8.decode_eq_ok_iff.mp decoded
        dsimp only at failed
        split at failed
        · cases failed
          cases other
        · rename_i n met
          cases failed
          exact .oversized present met
        · rename_i met
          cases failed
          exact .deep present met
        · cases failed
  · rintro (⟨refused⟩ | ⟨present, foreign, flaw⟩ | ⟨present, met⟩ | ⟨present, met⟩)
    · exact ⟨by rw [Source.readDocument, refused], rfl⟩
    · exact ⟨by rw [Source.readDocument, present]; simp only [Source.parseDocument, flaw], rfl⟩
    · refine ⟨?_, rfl⟩
      rw [Source.readDocument, present]
      simp only [Source.parseDocument, Utf8.decode_encode, met]
    · refine ⟨?_, rfl⟩
      rw [Source.readDocument, present]
      simp only [Source.parseDocument, Utf8.decode_encode, met]

/-- The files that settings are read from. -/
def projectPath (root : Path) : Path := root.join (Path.ofText "pyproject.toml")

def settingsPath (root : Path) : Path := root.join (Path.ofText ".credo-bridge.toml")

theorem load_projectFile_iff (stack : Stack) (files : FileTree) (env : Environment) (path : Path)
    (f : LoadFailure) :
    (Source.load stack files env (.projectFile path) = .error f ∧ f.isConfiguration = false) ↔
      Defies stack files path f := by
  rw [← readDocument_defies_iff, Source.load]
  cases read : Source.readDocument stack files path with
  | error g => rfl
  | ok document =>
    refine iff_of_false ?_ fun failed => by cases failed.1
    rintro ⟨failed, other⟩
    simp only [Except.bind, Source.projectFragment] at failed
    split at failed
    · split at failed
      · cases failed
      · cases failed
      · cases failed
      · cases failed
        cases other
    · cases failed

theorem load_settingsFile_iff (stack : Stack) (files : FileTree) (env : Environment) (path : Path)
    (f : LoadFailure) :
    (Source.load stack files env (.settingsFile path) = .error f ∧ f.isConfiguration = false) ↔
      Defies stack files path f := by
  rw [← readDocument_defies_iff, Source.load]
  cases read : Source.readDocument stack files path with
  | error g => rfl
  | ok document =>
    exact iff_of_false (fun failed => by cases failed.1) fun failed => by cases failed.1

/-- A failure that no error of the configuration stands for: that of the first file that fails. -/
inductive Unhandled (stack : Stack) (files : FileTree) (env : Environment) (root : Path) :
    LoadFailure → Prop
  | projectFile {f : LoadFailure} (defies : Defies stack files (projectPath root) f) :
      Unhandled stack files env root f
  | settingsFile {f : LoadFailure} {ms : Members}
      (loaded : Source.load stack files env (.projectFile (projectPath root)) = .ok ms)
      (defies : Defies stack files (settingsPath root) f) : Unhandled stack files env root f

/-- Merged members are settings or rejected. -/
theorem load_layers {layers : List Layer} (present : layers ≠ [])
    (failed : Layer.load layers explicit = .error f) : f.isConfiguration = true := by
  unfold Layer.load at failed
  rw [if_neg (by simpa using present)] at failed
  dsimp only at failed
  split at failed
  · cases failed
  · cases failed
    rfl

/-- The layers of the standard sources, with what the project file and the settings file set. -/
def standardLayers (env : Environment) (root : Path) (ms ns : Members) : List Layer :=
  [⟨"defaults", Settings.default.toMembers⟩, ⟨(projectPath root).text, ms⟩,
    ⟨(settingsPath root).text, ns⟩, ⟨"environment", Source.environmentFragment env⟩]

/-- Of the standard sources the project file and the settings file, in this order, may fail. -/
theorem load_eq (stack : Stack) (files : FileTree) (env : Environment) (root : Path)
    (explicit : Members) :
    Settings.load stack files env root explicit =
      (Source.load stack files env (.projectFile (projectPath root))).bind fun ms =>
        (Source.load stack files env (.settingsFile (settingsPath root))).bind fun ns =>
          Layer.load (standardLayers env root ms ns) explicit := by
  have standard : Source.standard root = [.defaults, .projectFile (projectPath root),
    .settingsFile (settingsPath root), .environment] := rfl
  have defaults : Source.load stack files env .defaults = .ok Settings.default.toMembers := rfl
  have environment : Source.load stack files env .environment =
      .ok (Source.environmentFragment env) := rfl
  simp only [Settings.load, standard, Source.layers, defaults, environment]
  cases Source.load stack files env (.projectFile (projectPath root)) with
  | error g => rfl
  | ok ms =>
    cases Source.load stack files env (.settingsFile (settingsPath root)) with
    | error g => rfl
    | ok ns => rfl

theorem load_unhandled_iff (explicit : Members) :
    (Settings.load stack files env root explicit = .error f ∧ f.isConfiguration = false) ↔
      Unhandled stack files env root f := by
  have unhandled : Unhandled stack files env root f ↔ Defies stack files (projectPath root) f ∨
      (∃ ms, Source.load stack files env (.projectFile (projectPath root)) = .ok ms) ∧
        Defies stack files (settingsPath root) f := by
    constructor
    · rintro (defies | ⟨loaded, defies⟩)
      · exact .inl defies
      · exact .inr ⟨⟨_, loaded⟩, defies⟩
    · rintro (defies | ⟨⟨ms, loaded⟩, defies⟩)
      · exact .projectFile defies
      · exact .settingsFile loaded defies
  rw [load_eq, unhandled, ← load_projectFile_iff stack files env,
    ← load_settingsFile_iff stack files env]
  cases project : Source.load stack files env (.projectFile (projectPath root)) with
  | error g => simp [Except.bind]
  | ok ms =>
    cases own : Source.load stack files env (.settingsFile (settingsPath root)) with
    | error g => simp [Except.bind]
    | ok ns =>
      refine iff_of_false (fun failed => ?_) (by simp)
      rw [load_layers (List.cons_ne_nil _ _) failed.1] at failed
      cases failed.2

/-! ### Files that can be read -/

/-- The path is short enough for the system, and if a file is there, it holds a text without
integers that are too long whose brackets do not nest too deep for the stack. -/
structure IsReadable (stack : Stack) (files : FileTree) (path : Path) : Prop where
  path_le : path.text.utf8ByteSize ≤ FileTree.longestPath
  part_le : ∀ part ∈ path.parts, part.utf8ByteSize ≤ FileTree.longestName
  text : ∀ bytes, files.contents? path = .ok (some bytes) →
    ∃ cs, Utf8.encode cs = bytes ∧ (∀ n, ¬ Toml.HasOversized n cs) ∧
      Toml.inlineCalls * Toml.nesting (Toml.normalizeLineEnds cs) ≤ stack.calls

theorem walk_ne_nameTooLong {parts : List String}
    (short : ∀ part ∈ parts, part.utf8ByteSize ≤ FileTree.longestName) (place : List String) :
    files.walk place parts ≠ .error .nameTooLong := by
  induction parts generalizing place with
  | nil => exact nofun
  | cons part rest ih =>
    obtain ⟨front, behind⟩ := List.forall_mem_cons.mp short
    rw [FileTree.walk]
    split
    · exact nofun
    · exact nofun
    · rw [if_neg (Nat.not_lt.mpr front)]
      split
      · exact ih behind _
      · exact ih behind _

theorem contents?_ne_error (readable : IsReadable stack files path) (e : SystemError) :
    files.contents? path ≠ .error e := by
  have found : files.locate files.home path ≠ .error .nameTooLong := by
    rw [FileTree.locate, if_neg (Nat.not_lt.mpr readable.path_le)]
    exact walk_ne_nameTooLong readable.part_le _
  unfold FileTree.contents?
  split
  · exact nofun
  · rename_i long
    exact absurd long found
  · exact nofun

/-- A readable file does not defy reading, whatever it says. -/
theorem not_defies (readable : IsReadable stack files path) : ¬ Defies stack files path f := by
  rintro (refused | ⟨present, foreign, _⟩ | ⟨present, met⟩ | ⟨present, met⟩)
  · exact contents?_ne_error readable _ refused
  · obtain ⟨cs, same, _⟩ := readable.text _ present
    exact foreign cs same
  · obtain ⟨cs, same, plain, _⟩ := readable.text _ present
    cases Utf8.encode_injective same
    exact plain _ (Toml.hasOversized_of_read met).of_normalized
  · obtain ⟨cs, same, _, shallow⟩ := readable.text _ present
    cases Utf8.encode_injective same
    exact absurd shallow (Nat.not_le.mpr (Toml.lt_nesting_of_read met))

/-! ### Commands -/

open Console

/-- How a command treats the failures of loading settings: errors of the configuration end it with
an exit code and a line of their own, what stays unhandled passes through. -/
structure Treats (w : World) (root : Path) (explicit : Members) (emoji : Bool) (exitCode : Nat)
    (outcome : Except CommandFailure Execution) : Prop where
  shown : ∀ f, Settings.load w.stack w.files w.environment root explicit = .error f →
    f.isConfiguration = true →
      outcome = (w.status emoji .fail f.message).map fun line => ⟨exitCode, "", line, [], []⟩
  passed_iff : ∀ f, outcome = .error (.unloadable f) ↔
    Unhandled w.stack w.files w.environment root f

theorem failing_eq (w : World) (emoji : Bool) (exitCode : Nat) (message : String) :
    w.failing emoji exitCode message =
      (w.status emoji .fail message).map fun line => ⟨exitCode, "", line, [], []⟩ := by
  unfold World.failing
  cases w.status emoji .fail message <;> rfl

/-- Something that is printed leads on, or it cannot be printed. -/
theorem ne_error_of_printed {α : Type} {shown : Except Terminal.CellFault α}
    {next : α → Except CommandFailure Execution} {failure : CommandFailure}
    (other : ∀ fault, failure ≠ .unprintable fault) (apart : ∀ a, next a ≠ .error failure) :
    (World.printed shown >>= next) ≠ .error failure := by
  cases shown with
  | error fault => exact fun same => other fault (Except.error.inj same).symm
  | ok a => exact apart a

/-- A command that fails with a message ends in no failure but that of printing it. -/
theorem failing_ne_error (w : World) (emoji : Bool) (exitCode : Nat) (message : String)
    {failure : CommandFailure} (other : ∀ fault, failure ≠ .unprintable fault) :
    w.failing emoji exitCode message ≠ .error failure := by
  have passed (line : String) :
      Except.ok (⟨exitCode, "", line, [], []⟩ : Execution) ≠ Except.error failure := nofun
  exact ne_error_of_printed other passed

theorem report_ne_unloadable (w : World) (file : String) (format : Format) (emoji : Bool)
    (threshold : LogLevel) (found : World.Findings) (f : LoadFailure) :
    w.report file format emoji threshold found ≠ .error (.unloadable f) := by
  have other (fault : Terminal.CellFault) :
      CommandFailure.unloadable f ≠ .unprintable fault := nofun
  have line (k : Status) (message : String) (next : String → Execution) :
      (w.status emoji k message >>= fun line => Except.ok (next line)) ≠ .error (.unloadable f) :=
    ne_error_of_printed other fun _ => nofun
  unfold World.report
  dsimp only
  split
  · exact line .fail _ _
  · split
    · exact nofun
    · refine ne_error_of_printed other fun shown => ?_
      split
      · exact line .ok _ _
      · exact line .warn _ _

/-- A command that goes on with the settings treats their failures alike. -/
theorem treats_of_load (w : World) (root : Path) (explicit : Members) (emoji : Bool)
    (exitCode : Nat)
    (next : Loaded → Except CommandFailure Execution)
    (apart : ∀ loaded f, next loaded ≠ .error (.unloadable f))
    {outcome : Except CommandFailure Execution}
    (goes : outcome = match Settings.load w.stack w.files w.environment root explicit with
      | .error f => if f.isConfiguration then w.failing emoji exitCode f.message
        else .error (.unloadable f)
      | .ok loaded => next loaded) : Treats w root explicit emoji exitCode outcome := by
  subst goes
  refine ⟨fun f failed configuration => ?_, fun f => ?_⟩
  · simp only [failed, configuration, if_true]
    exact failing_eq w emoji exitCode f.message
  · rw [← load_unhandled_iff explicit]
    cases loads : Settings.load w.stack w.files w.environment root explicit with
    | ok loaded => exact iff_of_false (apart loaded f) fun failed => by cases failed.1
    | error g =>
      dsimp only
      by_cases configuration : g.isConfiguration = true
      · rw [if_pos configuration]
        refine iff_of_false (failing_ne_error w emoji exitCode g.message fun _ => nofun) ?_
        rintro ⟨same, other⟩
        cases same
        rw [configuration] at other
        cases other
      · rw [if_neg configuration]
        simp only [Except.error.injEq, CommandFailure.unloadable.injEq]
        refine ⟨fun same => ⟨same, ?_⟩, And.left⟩
        exact same ▸ Bool.not_eq_true _ ▸ configuration

theorem treats_config (w : World) (root : Path) (trace : Bool) :
    Treats w root [] true 1 (w.config root trace) :=
  treats_of_load w root [] true 1
    (fun loaded =>
      .ok ⟨0, Json.render .indented (World.configValue loaded trace) ++ "\n", "", [], []⟩)
    (fun _ _ => nofun) rfl

theorem treats_inspect (w : World) (file root : Path) {formatName : String} (strict : Option Bool)
    (timeout : Option Binary64) (emoji verbose : Bool) {format : Format}
    (known : Format.ofName? formatName = some format) :
    Treats w root (World.overrides strict timeout) emoji 2
      (w.inspect file root formatName strict timeout emoji verbose) := by
  unfold World.inspect
  rw [known]
  refine treats_of_load w root _ emoji 2 _ (fun loaded f => ?_) rfl
  split
  · exact nofun
  · split
    · exact nofun
    · exact report_ne_unloadable _ _ _ _ _ _ f

/-- What loading the settings of a project comes to, and what the commands make of it. -/
structure Answers (w : World) (root : Path) : Prop where
  unhandled_iff : ∀ explicit f,
    (Settings.load w.stack w.files w.environment root explicit = .error f ∧
      f.isConfiguration = false) ↔
      Unhandled w.stack w.files w.environment root f
  readable : IsReadable w.stack w.files (projectPath root) →
    IsReadable w.stack w.files (settingsPath root) →
    ∀ explicit f, Settings.load w.stack w.files w.environment root explicit = .error f →
      f.isConfiguration = true
  config : ∀ trace, Treats w root [] true 1 (w.config root trace)
  inspect : ∀ file formatName strict timeout emoji verbose,
    (Format.ofName? formatName).isSome = true →
      Treats w root (World.overrides strict timeout) emoji 2
        (w.inspect file root formatName strict timeout emoji verbose)

/-- Loading ends in settings or in an error of the configuration, which the commands show, unless
one of the files cannot be read as a document; such a failure passes through loading and commands.
-/
theorem answers_of_world (w : World) (root : Path) : Answers w root := by
  refine ⟨fun explicit f => load_unhandled_iff explicit, fun project own explicit f failed => ?_,
    treats_config w root, fun file formatName strict timeout emoji verbose known => ?_⟩
  · by_contra other
    have unhandled := (load_unhandled_iff explicit).mp ⟨failed, Bool.not_eq_true _ ▸ other⟩
    rcases unhandled with defies | ⟨_, defies⟩
    · exact not_defies project defies
    · exact not_defies own defies
  · obtain ⟨format, known⟩ := Option.isSome_iff_exists.mp known
    exact treats_inspect w file root strict timeout emoji verbose known

/-- A home directory with a settings file in it. -/
def FileTree.ofSettings (bytes : List UInt8) : FileTree :=
  (FileTree.empty ["home"]).addFile ["home", ".credo-bridge.toml"] bytes

/-- With no project file beside it, a settings file that defies reading is a failure of its own. -/
theorem load_ofSettings {bytes : List UInt8}
    (defies : (FileTree.ofSettings bytes).contents? (settingsPath (Path.ofText ".")) =
      .ok (some bytes) → Defies .usual (.ofSettings bytes) (settingsPath (Path.ofText ".")) f) :
    Settings.load .usual (.ofSettings bytes) [] (Path.ofText ".") [] = .error f :=
  ((load_unhandled_iff []).mpr (.settingsFile rfl (defies rfl))).1

/-- A byte that is no text and an integer of 4301 digits are not errors of the configuration, and
the commands pass them on. -/
theorem unhandled_of_bytes_and_digits :
    Settings.load .usual (.ofSettings [0xFF]) [] (Path.ofText ".") [] =
        .error (.undecodable ⟨0, ⟨0xFF, 1, .startByte⟩⟩) ∧
      Settings.load .usual
        (.ofSettings (Utf8.encode ('x' :: '=' :: '1' :: List.replicate 4300 '1'))) []
        (Path.ofText ".") [] = .error (.oversizedInteger 4301) ∧
      ∀ launch,
        (⟨.ofSettings [0xFF], [], 80, .usual, launch⟩ : World).config (Path.ofText ".") false =
        .error (.unloadable (.undecodable ⟨0, ⟨0xFF, 1, .startByte⟩⟩)) := by
  have bytes : Settings.load .usual (.ofSettings [0xFF]) [] (Path.ofText ".") [] =
      .error (.undecodable ⟨0, ⟨0xFF, 1, .startByte⟩⟩) := by
    decide +kernel
  refine ⟨bytes, load_ofSettings fun present => .oversized present ?_, fun launch => ?_⟩
  · have digits : ∀ d ∈ '1' :: List.replicate 4300 '1', d.isDigit = true := by
      intro d inside
      rw [← List.replicate_succ] at inside
      rw [List.eq_of_mem_replicate inside]
      rfl
    have length : ('1' :: List.replicate 4300 '1').length = 4301 := by
      rw [List.length_cons, List.length_replicate]
    have plain : '\r' ∉ 'x' :: '=' :: '1' :: List.replicate 4300 '1' := by
      intro inside
      simp only [List.mem_cons, List.mem_replicate] at inside
      simp at inside
    have many : Json.maxDigits < ('1' :: List.replicate 4300 '1').length := by
      rw [length]
      decide
    rw [Toml.normalizeLineEnds_eq_self plain, Toml.read_oversized (by decide) digits many, length]
  · exact ((treats_config _ _ false).passed_iff _).mpr ((load_unhandled_iff []).mp ⟨bytes, rfl⟩)

end CredoAssistant
