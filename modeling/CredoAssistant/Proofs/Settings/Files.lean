import CredoAssistant.Proofs.Path
import CredoAssistant.Proofs.Settings.Standard

/-!
The files that hold settings. The same table of settings may stand in its section of the project
file or make up the settings file: it is read alike, so a project loads alike from either, up to the
name of the file. The spelling of its keys makes no difference, and of keys that are one key in two
spellings the last decides, whatever stands under the others.
-/
namespace CredoAssistant

open Settings (Field)

namespace Layer

def rename (f : String → String) (l : Layer) : Layer := ⟨f l.name, l.members⟩

theorem merge_rename (f : String → String) (layers : List Layer) :
    merge (layers.map (rename f)) = merge layers := by
  rw [merge, List.foldl_map]
  rfl

theorem provenance_rename (f : String → String) (layers : List Layer) :
    provenance (layers.map (rename f)) = (provenance layers).map fun e => (e.1, f e.2) := by
  induction layers using List.reverseRecOn with
  | nil => rfl
  | append_singleton layers l ih =>
    rw [provenance_eq_stack] at ih
    rw [List.map_append, List.map_singleton, provenance_eq_stack, provenance_eq_stack,
      stack_append_singleton, stack_append_singleton, Entries.map_update, ih, List.map_map]
    rfl

end Layer

/-- The files of a project that may hold settings. -/
inductive SettingsFile
  | project
  | own
  deriving DecidableEq, Repr

namespace SettingsFile

variable {stack : Stack} {file : SettingsFile} {files files' : FileTree} {env : Environment}
  {root : Path}
  {table table' explicit : Members} {loaded : Loaded}

def other : SettingsFile → SettingsFile
  | project => own
  | own => project

def name : SettingsFile → String
  | project => "pyproject.toml"
  | own => ".credo-bridge.toml"

def path (root : Path) : SettingsFile → Path
  | project => projectPath root
  | own => settingsPath root

def source (root : Path) : SettingsFile → Source
  | project => .projectFile (projectPath root)
  | own => .settingsFile (settingsPath root)

/-- The file can be read and says nothing of settings but the table: under its section in the
project file, and at the top of the settings file. -/
def Gives (stack : Stack) (files : FileTree) (root : Path) (table : Members) : SettingsFile → Prop
  | project => ∃ document tool,
      Source.readDocument stack files (projectPath root) = .ok document ∧
        Entries.get? "tool" document = some (.object tool) ∧
        Entries.get? "credo-bridge" tool = some (.object table)
  | own => Source.readDocument stack files (settingsPath root) = .ok table

/-- The project has the table in this file and does not have the other file. -/
structure Only (stack : Stack) (files : FileTree) (root : Path) (table : Members)
    (file : SettingsFile) : Prop where
  gives : file.Gives stack files root table
  alone : files.contents? (file.other.path root) = .ok none

theorem path_eq (file : SettingsFile) (root : Path) :
    file.path root = root.join (Path.ofText file.name) := by
  cases file <;> rfl

/-- The path of a file is not the name of another source. -/
theorem path_text_notMem (file : SettingsFile) (root : Path) :
    (file.path root).text ∉ ["defaults", "environment", "overrides"] := by
  have relative : (Path.ofText file.name).isAbsolute = false := by cases file <;> decide
  have single : (Path.ofText file.name).parts = [file.name] := by cases file <;> decide
  have last : file.name.toList.getLast? = some 'l' := by cases file <;> decide
  obtain ⟨front, whole⟩ := root.exists_text_append relative single
  have letter : (file.path root).text.toList.getLast? = some 'l' := by
    rw [path_eq, whole, String.toList_append, List.getLast?_append, last]
    rfl
  have apart : ∀ s ∈ ["defaults", "environment", "overrides"], s.toList.getLast? ≠ some 'l' := by
    decide
  exact fun inside => apart _ inside letter

/-! ### Fragments -/

/-- Either file is read as the normalized table. -/
theorem load_of_gives (env : Environment) (gives : file.Gives stack files root table) :
    Source.load stack files env (file.source root) = .ok (Source.normalized table) := by
  cases file with
  | project =>
    obtain ⟨document, tool, read, tools, given⟩ := gives
    simp only [source, Source.load, read, Except.bind, Source.projectFragment, tools, given]
  | own =>
    have read : Source.readDocument stack files (settingsPath root) = .ok table := gives
    simp only [source, Source.load, read]
    rfl

theorem load_of_missing (stack : Stack) (env : Environment)
    (missing : files.contents? (file.path root) = .ok none) :
    Source.load stack files env (file.source root) = .ok [] := by
  have read : Source.readDocument stack files (file.path root) = .ok [] := by
    rw [Source.readDocument, missing]
  cases file with
  | project =>
    rw [path] at read
    rw [source, Source.load, read]
    rfl
  | own =>
    rw [path] at read
    rw [source, Source.load, read]
    rfl

/-- A file that is not touched is read as before. -/
theorem load_congr (stack : Stack) (env : Environment)
    (same : files'.contents? (file.path root) = files.contents? (file.path root)) :
    Source.load stack files' env (file.source root) =
      Source.load stack files env (file.source root) := by
  have read : Source.readDocument stack files' (file.path root) =
      Source.readDocument stack files (file.path root) := by
    rw [Source.readDocument, Source.readDocument, same]
  cases file with
  | project => exact congrArg (Except.bind · (Source.projectFragment (projectPath root))) read
  | own => exact congrArg (Except.map Source.settingsFragment) read

/-! ### One file alone -/

/-- The layers of a project that has one file. -/
def layersOf (env : Environment) (name : String) (table : Members) : List Layer :=
  [⟨"defaults", Settings.default.toMembers⟩, ⟨name, Source.normalized table⟩,
    ⟨"environment", Source.environmentFragment env⟩]

theorem load_only (only : file.Only stack files root table) (env : Environment)
    (explicit : Members) :
    Settings.load stack files env root explicit =
      Layer.load (layersOf env (file.path root).text table) explicit := by
  have here := load_of_gives env only.gives
  have there := load_of_missing stack env only.alone
  rw [load_eq]
  -- The layer of the missing file is empty, so nothing is stored from it.
  cases file with
  | project =>
    simp only [source, other] at here there
    rw [here, there]
    rfl
  | own =>
    simp only [source, other] at here there
    rw [there, here]
    rfl

/-- Two outcomes of loading that differ in the name of one source only. -/
inductive LoadsAlike (name name' : String) :
    Except LoadFailure Loaded → Except LoadFailure Loaded → Prop
  | loaded (settings : Settings) (provenance : Entries String String) :
      LoadsAlike name name' (.ok ⟨settings, provenance⟩)
        (.ok ⟨settings, provenance.map fun e => (e.1, if e.2 = name then name' else e.2)⟩)
  | rejected (rejection : Rejection) :
      LoadsAlike name name' (.error (.rejected rejection)) (.error (.rejected rejection))

theorem loadsAlike_layersOf (env : Environment) (table explicit : Members) {name : String}
    (name' : String) (apart : name ∉ ["defaults", "environment", "overrides"]) :
    LoadsAlike name name' (Layer.load (layersOf env name table) explicit)
      (Layer.load (layersOf env name' table) explicit) := by
  simp only [List.mem_cons, List.not_mem_nil, or_false, not_or] at apart
  have renamed : Layer.withOverrides (layersOf env name' table) explicit =
      (Layer.withOverrides (layersOf env name table) explicit).map
        (Layer.rename fun n => if n = name then name' else n) := by
    simp [Layer.withOverrides, layersOf, Layer.overrides, Layer.rename, Ne.symm apart.1,
      Ne.symm apart.2.1, Ne.symm apart.2.2]
  have merged := Layer.merge_rename (fun n => if n = name then name' else n)
    (Layer.withOverrides (layersOf env name table) explicit)
  have named := Layer.provenance_rename (fun n => if n = name then name' else n)
    (Layer.withOverrides (layersOf env name table) explicit)
  rw [← renamed] at merged named
  simp only [Layer.withOverrides] at merged named
  unfold Layer.load
  rw [if_neg (by simp [layersOf]), if_neg (by simp [layersOf])]
  dsimp only
  rw [merged, named]
  cases Settings.ofMembers
    (Layer.merge (layersOf env name table ++ [Layer.overrides explicit])) with
  | ok settings => exact .loaded settings _
  | error rejection => exact .rejected rejection

/-- A value that the file sets is the one that the settings hold, unless a stronger source has its
field. -/
theorem prevails_of_only (only : file.Only stack files root table)
    (loads : Settings.load stack files env root explicit = .ok loaded) (f : Field) {v : Value}
    (given : Entries.get? f.name (Source.normalized table) = some v)
    (environment : f.name ∉ Entries.keys (Source.environmentFragment env))
    (overrides : f.name ∉ Entries.keys (Layer.overrides explicit).members) :
    f.check v = .passed (f.get loaded.settings) ∧
      Entries.get? f.name loaded.provenance = some (file.path root).text := by
  rw [load_only only] at loads
  have present : layersOf env (file.path root).text table ≠ [] := List.cons_ne_nil _ _
  have distinct := Source.nodup_normalized table
  have above : ∀ l ∈ [⟨"environment", Source.environmentFragment env⟩, Layer.overrides explicit],
      f.name ∉ Entries.keys l.members := by
    simpa using ⟨environment, overrides⟩
  constructor
  · have merged : Entries.get? f.name (Layer.merge (Layer.withOverrides
        (layersOf env (file.path root).text table) explicit)) = some v :=
      Layer.get?_stack_of_above Layer.members [⟨"defaults", Settings.default.toMembers⟩] distinct
        given above
    have held := Layer.holds_of_load present loads f
    rw [merged] at held
    exact held
  · rw [((Layer.load_eq_ok_iff present).mp loads).2]
    refine Layer.get?_stack_of_above (fun l => l.members.map fun m => (m.1, l.name))
      [⟨"defaults", Settings.default.toMembers⟩]
      (l := ⟨(file.path root).text, Source.normalized table⟩) ?_ ?_ ?_
    · rw [Layer.keys_names]
      exact distinct
    · rw [Entries.get?_map_values (fun _ => (file.path root).text), given, Option.map_some]
    · intro l inside
      rw [Layer.keys_names]
      exact above l inside

/-! ### Spellings -/

/-- The same table with other hyphens and underscores in its keys. -/
def Respelled : Members → Members → Prop :=
  List.Forall₂ fun m m' => Source.underscored m.1 = Source.underscored m'.1 ∧ m.2 = m'.2

theorem map_underscored_of_respelled (respelled : Respelled table table') :
    table.map (fun m => (Source.underscored m.1, m.2)) =
      table'.map fun m => (Source.underscored m.1, m.2) := by
  induction respelled with
  | nil => rfl
  | cons same _ ih => rw [List.map_cons, List.map_cons, same.1, same.2, ih]

/-- Keys that are apart in one spelling are apart in every other one. -/
theorem nodup_of_respelled (respelled : Respelled table table')
    (apart : (table.map fun m => Source.underscored m.1).Nodup) :
    (Entries.keys table').Nodup ∧ (table'.map fun m => Source.underscored m.1).Nodup := by
  have same : table'.map (fun m => Source.underscored m.1) =
      table.map fun m => Source.underscored m.1 := by
    have keys := congrArg (List.map Prod.fst) (map_underscored_of_respelled respelled)
    simpa [Function.comp_def] using keys.symm
  have still : (table'.map fun m => Source.underscored m.1).Nodup := same ▸ apart
  refine ⟨?_, still⟩
  have whole : table'.map (fun m => Source.underscored m.1) =
      (Entries.keys table').map Source.underscored := by
    simp [Entries.keys]
  exact (whole ▸ still).of_map

/-- Of the members that are one key in different spellings the last gives its value. -/
theorem get?_normalized_iff {key : String} {v : Value} :
    Entries.get? key (Source.normalized table) = some v ↔
      ∃ before k after, table = before ++ (k, v) :: after ∧ Source.underscored k = key ∧
        ∀ m ∈ after, Source.underscored m.1 ≠ key := by
  rw [Source.normalized, Entries.get?_ofPairs_eq_some_iff]
  constructor
  · rintro ⟨before, after, whole, last⟩
    obtain ⟨front, rest, rfl, _, tail⟩ := List.map_eq_append_iff.mp whole
    obtain ⟨⟨k, w⟩, behind, rfl, same, rfl⟩ := List.map_eq_cons_iff.mp tail
    cases same
    refine ⟨front, k, behind, rfl, rfl, fun m inside equal => last ?_⟩
    rw [← equal]
    simpa [Entries.keys] using ⟨m.1, ⟨m.2, inside⟩, rfl⟩
  · rintro ⟨before, k, after, rfl, rfl, last⟩
    refine ⟨before.map fun m => (Source.underscored m.1, m.2),
      after.map fun m => (Source.underscored m.1, m.2), by simp, fun inside => ?_⟩
    simp only [Entries.keys, List.map_map, List.mem_map, Function.comp_apply] at inside
    obtain ⟨m, behind, equal⟩ := inside
    exact last m behind equal

/-- A value makes no difference when its key comes again, in whatever spelling. -/
theorem normalized_masked (before after : Members) (k : String) (v w : Value)
    (again : ∃ m ∈ after, Source.underscored m.1 = Source.underscored k) :
    Source.normalized (before ++ (k, v) :: after) =
      Source.normalized (before ++ (k, w) :: after) := by
  have masked : Source.underscored k ∈
      Entries.keys (after.map fun m => (Source.underscored m.1, m.2)) := by
    simpa [Entries.keys] using again
  have front : (Entries.keys (Source.normalized before)).Nodup := Source.nodup_normalized before
  have stored (x : Value) : Source.normalized (before ++ (k, x) :: after) =
      Entries.update (Entries.set (Source.underscored k) x (Source.normalized before))
        (after.map fun m => (Source.underscored m.1, m.2)) := by
    simp [Source.normalized, Entries.ofPairs, Entries.update, List.foldl_append]
  rw [stored, stored, Entries.update_set_masked front masked v w]

/-- Two tables of which either may stand in the place of the other, in whichever file. -/
def Interchangeable (stack : Stack) (table table' : Members) : Prop :=
  ∀ (file : SettingsFile) (files files' : FileTree) (root : Path) (env : Environment)
    (explicit : Members),
    file.Gives stack files root table → file.Gives stack files' root table' →
      files'.contents? (file.other.path root) = files.contents? (file.other.path root) →
        Settings.load stack files' env root explicit = Settings.load stack files env root explicit

theorem interchangeable_of_normalized (same : Source.normalized table = Source.normalized table') :
    Interchangeable stack table table' := by
  intro file files files' root env explicit gives gives' beside
  have here : Source.load stack files' env (file.source root) =
      Source.load stack files env (file.source root) := by
    rw [load_of_gives env gives, load_of_gives env gives', same]
  have there := load_congr stack env beside
  rw [load_eq, load_eq]
  cases file with
  | project =>
    simp only [source, other] at here there
    rw [here, there]
  | own =>
    simp only [source, other] at here there
    rw [there, here]

/-! ### Tables of settings -/

/-- What a table of settings comes to: the same fragment from either file, and from either one alone
the same outcome up to the name of the file. Its keys may be spelled anew as long as they stay
apart, and of keys that are one the last gives the value, the others having no say. -/
structure ReadsAlike (stack : Stack) (table : Members) : Prop where
  fragments : ∀ (file : SettingsFile) files root env, file.Gives stack files root table →
    Source.load stack files env (file.source root) = .ok (Source.normalized table)
  loads : ∀ (file file' : SettingsFile) files files' root root' env explicit,
    file.Only stack files root table → file'.Only stack files' root' table →
      LoadsAlike (file.path root).text (file'.path root').text
        (Settings.load stack files env root explicit)
        (Settings.load stack files' env root' explicit)
  spellable : ∀ table', Respelled table table' →
    (table.map fun m => Source.underscored m.1).Nodup →
      (Entries.keys table').Nodup ∧ (table'.map fun m => Source.underscored m.1).Nodup
  respelled : ∀ table', Respelled table table' → Interchangeable stack table table'
  last : ∀ key v, Entries.get? key (Source.normalized table) = some v ↔
    ∃ before k after, table = before ++ (k, v) :: after ∧ Source.underscored k = key ∧
      ∀ m ∈ after, Source.underscored m.1 ≠ key
  used : ∀ (file : SettingsFile) files root env explicit loaded, file.Only stack files root table →
    Settings.load stack files env root explicit = .ok loaded → ∀ (f : Field) v,
      Entries.get? f.name (Source.normalized table) = some v →
        f.name ∉ Entries.keys (Source.environmentFragment env) →
          f.name ∉ Entries.keys (Layer.overrides explicit).members →
            f.check v = .passed (f.get loaded.settings) ∧
              Entries.get? f.name loaded.provenance = some (file.path root).text
  masked : ∀ before k v w after, table = before ++ (k, v) :: after →
    (∃ m ∈ after, Source.underscored m.1 = Source.underscored k) →
      Interchangeable stack table (before ++ (k, w) :: after)

/-- Both files read every table of settings alike. -/
theorem readsAlike (stack : Stack) (table : Members) : ReadsAlike stack table := by
  constructor
  case fragments => exact fun file files root env gives => load_of_gives env gives
  case loads =>
    intro file file' files files' root root' env explicit only only'
    rw [load_only only, load_only only']
    exact loadsAlike_layersOf env table explicit _ (file.path_text_notMem root)
  case spellable => exact fun table' respelled apart => nodup_of_respelled respelled apart
  case respelled =>
    intro table' respelled
    refine interchangeable_of_normalized ?_
    rw [Source.normalized, Source.normalized, map_underscored_of_respelled respelled]
  case last => exact fun key v => get?_normalized_iff
  case used =>
    intro file files root env explicit loaded only loads f v given environment overrides
    exact prevails_of_only only loads f given environment overrides
  case masked =>
    rintro before k v w after rfl again
    exact interchangeable_of_normalized (normalized_masked before after k v w again)

/-- A table with one key in two spellings. -/
def spelledTwice : Members :=
  [("clear-on-failure", .bool false), ("clear_on_failure", .bool true)]

/-- How the table is written. -/
def spelledLines : String := "clear-on-failure = false\nclear_on_failure = true\n"

/-- A home directory with a file in it. -/
def homeWith (name text : String) : FileTree :=
  (FileTree.empty ["home"]).addFile ["home", name] (Utf8.encode text.toList)

/-- Alone in the project file and alone in the settings file the table loads alike, and what is
written last holds. -/
theorem readsAlike_spelledTwice :
    project.Only .usual (homeWith "pyproject.toml" ("[tool.credo-bridge]\n" ++ spelledLines))
        (Path.ofText ".") spelledTwice ∧
      own.Only .usual (homeWith ".credo-bridge.toml" spelledLines) (Path.ofText ".") spelledTwice ∧
      LoadsAlike "pyproject.toml" ".credo-bridge.toml"
        (Settings.load .usual
          (homeWith "pyproject.toml" ("[tool.credo-bridge]\n" ++ spelledLines)) []
          (Path.ofText ".") [])
        (Settings.load .usual (homeWith ".credo-bridge.toml" spelledLines) []
          (Path.ofText ".") []) ∧
      (Settings.load .usual (homeWith ".credo-bridge.toml" spelledLines) []
        (Path.ofText ".") []).map (fun loaded => loaded.settings.clearOnFailure) = .ok true := by
  have inProject :
      project.Only .usual (homeWith "pyproject.toml" ("[tool.credo-bridge]\n" ++ spelledLines))
        (Path.ofText ".") spelledTwice := by
    refine ⟨⟨[("tool", .object [("credo-bridge", .object spelledTwice)])],
      [("credo-bridge", .object spelledTwice)], ?_, ?_, ?_⟩, ?_⟩
    · with_unfolding_all rfl
    · rfl
    · rfl
    · decide +kernel
  have own_read : Source.readDocument .usual (homeWith ".credo-bridge.toml" spelledLines)
      (settingsPath (Path.ofText ".")) = .ok spelledTwice := by
    with_unfolding_all rfl
  have inOwn : own.Only .usual (homeWith ".credo-bridge.toml" spelledLines) (Path.ofText ".")
      spelledTwice :=
    ⟨own_read, by decide +kernel⟩
  have alike := (readsAlike .usual spelledTwice).loads project own _ _ _ _ [] [] inProject inOwn
  exact ⟨inProject, inOwn, alike, by decide +kernel⟩

end SettingsFile

end CredoAssistant
