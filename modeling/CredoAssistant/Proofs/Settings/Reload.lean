import CredoAssistant.Proofs.Settings.Precedence
import CredoAssistant.Proofs.Settings.Validity

/-!
Loading settings again. Settings that were loaded can be put on top of the layers that they came
from: each field is then read from the value that it holds. Absent values are left out there, which
does no harm, as a field is absent only if the layers below leave it absent on their own.
-/
namespace CredoAssistant

namespace Settings

/-- Only null is read as an absent value. -/
theorem Field.null_of_check {f : Field} {v : Value} {s : Settings}
    (passed : f.check v = .passed (f.get s)) (absent : f.value s = .null) : v = .null := by
  cases f with
  | configName =>
    cases given : s.configName with
    | some c => simp [value, given, Value.optional] at absent
    | none =>
      rw [get, given] at passed
      exact Validation.null_of_nullable (Checked.ofExcept_eq_passed.mp passed)
  | timeout =>
    cases given : s.timeout with
    | some t => simp [value, given, Value.optional] at absent
    | none =>
      rw [get, given] at passed
      exact Validation.null_of_nullable (Checked.ofExcept_eq_passed.mp passed)
  | _ => cases absent

theorem nodup_keys_toMembers (s : Settings) : (Entries.keys s.toMembers).Nodup := by
  have names : Entries.keys s.toMembers = fields := rfl
  rw [names]
  decide

end Settings

namespace Layer

open Settings (Field)

variable {layers : List Layer} {explicit : Members}

theorem merge_withOverrides (layers : List Layer) (explicit : Members) :
    merge (withOverrides layers explicit) =
      Entries.update (merge layers) (overrides explicit).members :=
  stack_append_singleton Layer.members layers (overrides explicit)

/-- What the caller sets is never null, so a null comes from the layers below. -/
theorem get?_merge_of_null {key : String}
    (found : Entries.get? key (merge (withOverrides layers explicit)) = some .null) :
    Entries.get? key (merge layers) = some .null := by
  have inside := Entries.mem_of_get? found
  rw [merge_withOverrides] at inside
  rcases Entries.mem_of_mem_update inside with below | above
  · exact (Entries.get?_eq_some_iff (nodup_keys_stack Layer.members layers)).mpr below
  · have kept := (List.mem_filter.mp above).2
    cases kept

theorem get?_merge_of_none {key : String}
    (missing : Entries.get? key (merge (withOverrides layers explicit)) = none) :
    Entries.get? key (merge layers) = none := by
  rw [merge_withOverrides, Entries.get?_eq_none_iff, Entries.mem_keys_update, not_or] at missing
  exact Entries.get?_eq_none_iff.mpr missing.1

/-- A field that settings leave absent is absent in the layers that they come from. -/
theorem holds_merge_of_null {s : Settings} {f : Field} (absent : f.value s = .null)
    (held : f.Holds (Entries.get? f.name (merge (withOverrides layers explicit))) (f.get s)) :
    f.Holds (Entries.get? f.name (merge layers)) (f.get s) := by
  cases given : Entries.get? f.name (merge (withOverrides layers explicit)) with
  | none =>
    rw [given] at held
    rwa [get?_merge_of_none given]
  | some v =>
    rw [given] at held
    obtain rfl : v = .null := Field.null_of_check held absent
    rwa [get?_merge_of_null given]

theorem keys_overrides_sublist (explicit : Members) :
    (Entries.keys (overrides explicit).members).Sublist (Entries.keys explicit) :=
  Entries.keys_filter_sublist _ explicit

theorem get?_overrides_toMembers (s : Settings) (f : Field) :
    Entries.get? f.name (overrides s.toMembers).members =
      (some (f.value s)).filter fun v => !v.isNull := by
  rw [← Field.get?_toMembers]
  exact Entries.get?_filter_values s.nodup_keys_toMembers (fun v => !v.isNull) f.name

/-- Settings on top of the layers that they come from are read as they are. -/
theorem ofMembers_merge_toMembers {s : Settings}
    (read : Settings.ofMembers (merge (withOverrides layers explicit)) = .ok s) :
    Settings.ofMembers (merge (withOverrides layers s.toMembers)) = .ok s := by
  have valid : s.IsValid := Settings.isValid_iff.mpr ⟨_, read⟩
  obtain ⟨known, held⟩ := Settings.ofMembers_eq_ok_iff.mp read
  have distinct : (Entries.keys (overrides s.toMembers).members).Nodup :=
    s.nodup_keys_toMembers.sublist (keys_overrides_sublist s.toMembers)
  refine Settings.ofMembers_eq_ok_iff.mpr ⟨fun key has => ?_, fun f => ?_⟩
  · rw [merge_withOverrides, Entries.mem_keys_update] at has
    rcases has with below | above
    · refine known key ?_
      rw [merge_withOverrides]
      exact Entries.mem_keys_update.mpr (.inl below)
    · exact (keys_overrides_sublist s.toMembers).subset above
  · rw [merge_withOverrides, Entries.get?_update distinct, get?_overrides_toMembers]
    by_cases absent : f.value s = .null
    · rw [absent]
      exact holds_merge_of_null absent (held f)
    · rw [Value.filter_of_ne_null absent]
      exact Field.check_value valid f

/-- Loaded settings, set on top of the layers they come from, load again as they are. -/
theorem reloads_of_load {loaded : Loaded} (loads : load layers explicit = .ok loaded) :
    ∃ again, load layers loaded.settings.toMembers = .ok again ∧
      again.settings = loaded.settings := by
  have present : layers ≠ [] := by
    rintro rfl
    cases loads
  have read := ((load_eq_ok_iff present).mp loads).1
  let again : Loaded :=
    ⟨loaded.settings, provenance (withOverrides layers loaded.settings.toMembers)⟩
  exact ⟨again, (load_eq_ok_iff present).mpr ⟨ofMembers_merge_toMembers read, rfl⟩, rfl⟩

/-- Layers with shell words, a word for a boolean, and a time limit that is taken back. -/
def spelled : List Layer :=
  [⟨"defaults", Settings.default.toMembers⟩,
    ⟨"file", [("command", .text "mix 'credo lint'"), ("timeout", .text " 2.5 "),
      ("strict", .text "On"), ("config_name", .text "ci")]⟩,
    ⟨"project", [("timeout", .null), ("syntaxes", .texts ["elixir", "eex"])]⟩]

theorem reloads_spelled :
    ∃ loaded, load spelled [("extra_args", .text "--all"), ("config_name", .null)] = .ok loaded ∧
      loaded.settings =
        { Settings.default with
          command := ["mix", "credo lint"], extraArgs := ["--all"], strict := true,
          configName := some "ci", syntaxes := ["elixir", "eex"] } ∧
      ∃ again, load spelled loaded.settings.toMembers = .ok again ∧
        again.settings = loaded.settings := by
  have loads : load spelled [("extra_args", .text "--all"), ("config_name", .null)] =
      .ok ⟨{ Settings.default with
          command := ["mix", "credo lint"], extraArgs := ["--all"], strict := true,
          configName := some "ci", syntaxes := ["elixir", "eex"] },
        [("launcher", "defaults"), ("command", "file"), ("extra_args", "overrides"),
          ("strict", "file"), ("config_name", "file"), ("timeout", "project"),
          ("clear_on_failure", "defaults"), ("syntaxes", "project"), ("event", "defaults")]⟩ := by
    decide +kernel
  exact ⟨_, loads, rfl, reloads_of_load loads⟩

end Layer

end CredoAssistant
