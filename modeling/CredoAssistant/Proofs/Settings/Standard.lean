import CredoAssistant.Proofs.Settings.Precedence
import CredoAssistant.Proofs.Settings.Validity

/-!
The standard layers of a project. The defaults stand below all others and set every field, so each
field has a source. What the command line sets comes on top: it replaces its own fields and keeps
what the other layers make of the rest, and it can make sound settings unsound only by its own
values.
-/
namespace CredoAssistant

open Settings (Field)

variable {stack : Stack} {files : FileTree} {env : Environment} {root : Path}

namespace Source

theorem nodup_normalized (ms : Members) : (Entries.keys (normalized ms)).Nodup :=
  Entries.nodup_keys_update List.nodup_nil

theorem nodup_environmentFragment (env : Environment) :
    (Entries.keys (environmentFragment env)).Nodup := by
  have known : (Entries.keys (environmentFragment env)).Sublist Settings.fields := by
    unfold environmentFragment
    generalize Settings.fields = fields
    induction fields with
    | nil => exact List.Sublist.slnil
    | cons field fields ih =>
      rw [List.filterMap_cons]
      split
      · exact ih.cons field
      · rename_i entry given
        have key : entry.1 = field := by
          split at given
          · split at given
            · cases given
            · cases given
              rfl
          · cases given
        rw [Entries.keys_cons, key]
        exact ih.cons_cons field
  exact known.nodup (by decide)

theorem nodup_of_projectFragment {path : Path} {document ms : Members}
    (fragment : projectFragment path document = .ok ms) : (Entries.keys ms).Nodup := by
  unfold projectFragment at fragment
  split at fragment
  · split at fragment
    · cases fragment
      exact List.nodup_nil
    · cases fragment
      exact List.nodup_nil
    · cases fragment
      exact nodup_normalized _
    · cases fragment
  · cases fragment
    exact List.nodup_nil

/-- No source sets a member twice. -/
theorem nodup_of_load {source : Source} {ms : Members}
    (loaded : source.load stack files env = .ok ms) :
    (Entries.keys ms).Nodup := by
  cases source with
  | defaults =>
    cases loaded
    decide
  | environment =>
    cases loaded
    exact nodup_environmentFragment env
  | settingsFile path =>
    rw [load] at loaded
    cases read : readDocument stack files path with
    | error f =>
      rw [read] at loaded
      cases loaded
    | ok document =>
      rw [read] at loaded
      cases loaded
      exact nodup_normalized document
  | projectFile path =>
    rw [load] at loaded
    obtain ⟨document, _, fragment⟩ := bind_eq_ok_iff.mp loaded
    exact nodup_of_projectFragment fragment

end Source

/-- Layers that hold every field, the defaults first, and no member twice. -/
structure Layer.Complete (layers : List Layer) : Prop where
  present : layers ≠ []
  distinct : ∀ l ∈ layers, (Entries.keys l.members).Nodup
  defaults : ⟨"defaults", Settings.default.toMembers⟩ ∈ layers

/-- Settings that load come from layers that hang on nothing but the project and the environment. -/
theorem exists_layers_of_load {explicit : Members} {loaded : Loaded}
    (loads : Settings.load stack files env root explicit = .ok loaded) :
    ∃ layers, Layer.Complete layers ∧
      ∀ other, Settings.load stack files env root other = Layer.load layers other := by
  rw [load_eq] at loads
  obtain ⟨ms, project, loads⟩ := bind_eq_ok_iff.mp loads
  obtain ⟨ns, own, _⟩ := bind_eq_ok_iff.mp loads
  refine ⟨standardLayers env root ms ns, ⟨List.cons_ne_nil _ _, ?_, List.mem_cons_self⟩,
    fun other => by rw [load_eq, project, own]; rfl⟩
  simp only [standardLayers, List.forall_mem_cons]
  refine ⟨by decide, Source.nodup_of_load project, Source.nodup_of_load own,
    Source.nodup_environmentFragment env, nofun⟩

theorem Settings.isValid_of_load {explicit : Members} {loaded : Loaded}
    (loads : Settings.load stack files env root explicit = .ok loaded) :
    loaded.settings.IsValid := by
  obtain ⟨layers, complete, same⟩ := exists_layers_of_load loads
  rw [same] at loads
  exact isValid_iff.mpr ⟨_, ((Layer.load_eq_ok_iff complete.present).mp loads).1⟩

namespace Layer

variable {layers : List Layer} {explicit : Members} {loaded : Loaded}

/-- Every field has a source, and nothing else has. -/
theorem keys_provenance_perm (complete : Complete layers)
    (loads : load layers explicit = .ok loaded) (given : (Entries.keys explicit).Nodup) :
    (Entries.keys loaded.provenance).Perm Settings.fields := by
  obtain ⟨read, named⟩ := (load_eq_ok_iff complete.present).mp loads
  have distinct := nodup_withOverrides complete.distinct given
  have occurs (key : String) : key ∈ Entries.keys (provenance (withOverrides layers explicit)) ↔
      ∃ l ∈ withOverrides layers explicit, key ∈ Entries.keys l.members := by
    rw [provenance_eq_stack, mem_keys_stack (by simpa [keys_names] using distinct)]
    simp only [keys_names]
  have merged (key : String) : key ∈ Entries.keys (merge (withOverrides layers explicit)) ↔
      ∃ l ∈ withOverrides layers explicit, key ∈ Entries.keys l.members := mem_keys_stack distinct
  rw [named]
  refine (List.perm_ext_iff_of_nodup (nodup_keys_stack _ _) (by decide)).mpr fun key => ?_
  constructor
  · intro occurring
    exact (Settings.ofMembers_eq_ok_iff.mp read).1 key
      ((merged key).mpr ((occurs key).mp occurring))
  · intro field
    exact (occurs key).mpr ⟨_, List.mem_append_left _ complete.defaults, field⟩

/-- A field that the top layer leaves alone is merged from the layers below it. -/
theorem get?_merge_withOverrides (given : (Entries.keys explicit).Nodup) (key : String) :
    Entries.get? key (merge (withOverrides layers explicit)) =
      (Entries.get? key (overrides explicit).members).or (Entries.get? key (merge layers)) := by
  have distinct : (Entries.keys (overrides explicit).members).Nodup :=
    given.sublist (Entries.keys_filter_sublist _ explicit)
  rw [merge_eq_stack, withOverrides, stack_append_singleton, Entries.get?_update distinct]
  rfl

/-- Valid values on top replace what their fields hold; every other field keeps what it has. -/
theorem load_withOverrides (complete : Complete layers) (loads : load layers [] = .ok loaded)
    (given : (Entries.keys explicit).Nodup) {s : Settings}
    (known : ∀ key ∈ Entries.keys (overrides explicit).members, key ∈ Settings.fields)
    (answers : ∀ f : Field, Validation.Answers f.check (f.get loaded.settings)
      (Entries.get? f.name (overrides explicit).members) (f.get s)) :
    load layers explicit = .ok ⟨s, provenance (withOverrides layers explicit)⟩ := by
  obtain ⟨fields, holds⟩ := Settings.ofMembers_eq_ok_iff.mp
    ((load_eq_ok_iff complete.present).mp loads).1
  have nothing : (Entries.keys ([] : Members)).Nodup := List.nodup_nil
  have below (key : String) : Entries.get? key (merge (withOverrides layers [])) =
      Entries.get? key (merge layers) := get?_merge_withOverrides nothing key
  refine (load_eq_ok_iff complete.present).mpr ⟨Settings.ofMembers_eq_ok_iff.mpr ⟨?_, ?_⟩, rfl⟩
  · intro key present
    obtain ⟨v, found⟩ := Entries.mem_keys_iff.mp present
    -- The key comes from the top or from below, where it was a field already.
    rw [get?_merge_withOverrides given, Option.or_eq_some_iff] at found
    rcases found with top | ⟨_, kept⟩
    · exact known key (Entries.mem_keys_iff.mpr ⟨v, top⟩)
    · exact fields key (Entries.mem_keys_iff.mpr ⟨v, (below key).trans kept⟩)
  · intro f
    have answer := answers f
    rw [get?_merge_withOverrides given]
    cases top : Entries.get? f.name (overrides explicit).members with
    | some v =>
      rw [top] at answer
      exact answer
    | none =>
      rw [top] at answer
      have kept : f.get s = f.get loaded.settings := answer
      rw [Option.none_or, kept, ← below]
      exact holds f

end Layer

open Console

/-- Options as they stand over the settings of a project: one that is absent changes nothing. -/
def Settings.withOptions (s : Settings) (strict : Option Bool) (timeout : Option Binary64) :
    Settings :=
  { s with strict := strict.getD s.strict, timeout := timeout <|> s.timeout }

theorem get?_overrides_options (strict : Option Bool) (timeout : Option Binary64) (f : Field) :
    Entries.get? f.name (Layer.overrides (World.overrides strict timeout)).members =
      match f with
      | .strict => strict.map .bool
      | .timeout => timeout.map .float
      | _ => none := by
  cases strict <;> cases timeout <;> cases f <;> rfl

/-- The options of the command line decide their own fields only, falsy values included. -/
theorem load_options {loaded : Loaded} (loads : Settings.load stack files env root [] = .ok loaded)
    (strict : Option Bool) {timeout : Option Binary64}
    (sign : ∀ t ∈ timeout, t.isNonNegative = true) :
    ∃ provenance, Settings.load stack files env root (World.overrides strict timeout) =
      .ok ⟨loaded.settings.withOptions strict timeout, provenance⟩ := by
  obtain ⟨layers, complete, same⟩ := exists_layers_of_load loads
  rw [same] at loads ⊢
  have given : (Entries.keys (World.overrides strict timeout)).Nodup := by
    simp [World.overrides, Entries.keys]
  refine ⟨_, Layer.load_withOverrides complete loads given (fun key present => ?_) fun f => ?_⟩
  · have option : key ∈ Entries.keys (World.overrides strict timeout) :=
      (Entries.keys_filter_sublist (fun m : String × Value => !m.2.isNull) _).subset present
    simp only [World.overrides, Entries.keys, List.map_cons, List.map_nil, List.mem_cons,
      List.not_mem_nil, or_false] at option
    rcases option with rfl | rfl
    · decide
    · decide
  · rw [get?_overrides_options]
    cases f with
    | strict => cases strict <;> rfl
    | timeout =>
      cases timeout with
      | none => rfl
      | some t =>
        have sound : Validation.nonNegative (.float t) = .ok t :=
          Validation.nonNegative_eq_ok_iff.mpr ⟨rfl, sign t rfl⟩
        simp only [Option.map_some, Validation.Answers, Field.check, Validation.nullable, sound]
        rfl
    | _ => rfl

end CredoAssistant
