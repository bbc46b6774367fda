import CredoAssistant.Proofs.Settings.Fields
import CredoAssistant.Proofs.Settings.Loading
import Mathlib.Data.List.Induction

/-!
Precedence of layers. A key has the value of the last layer that has it, and its provenance is the
name of that layer: both come of one way to write layers over each other, so they cannot part. A
value that a later layer replaces has no say, whether it is valid or not.
-/
namespace CredoAssistant.Layer

open Settings (Field)

section Stack

variable {υ : Type} {part : Layer → Entries String υ} {layers : List Layer} {key : String}

/-- A part of each layer, later layers over earlier ones. -/
def stack (part : Layer → Entries String υ) (layers : List Layer) : Entries String υ :=
  layers.foldl (fun acc l => Entries.update acc (part l)) []

theorem stack_append_singleton (part : Layer → Entries String υ) (layers : List Layer) (l : Layer) :
    stack part (layers ++ [l]) = Entries.update (stack part layers) (part l) := by
  rw [stack, List.foldl_append]
  rfl

theorem get?_stack (distinct : ∀ l ∈ layers, (Entries.keys (part l)).Nodup) :
    Entries.get? key (stack part layers) =
      layers.reverse.findSome? fun l => Entries.get? key (part l) := by
  induction layers using List.reverseRecOn with
  | nil => rfl
  | append_singleton layers l ih =>
    have top := distinct l (by simp)
    have below := ih fun m inside => distinct m (List.mem_append_left _ inside)
    rw [stack_append_singleton, Entries.get?_update top, below, List.reverse_append]
    simp only [List.reverse_singleton, List.singleton_append, List.findSome?_cons]
    cases Entries.get? key (part l) <;> rfl

/-- What a stack holds under a key stands in the last layer that has the key. -/
theorem get?_stack_iff (distinct : ∀ l ∈ layers, (Entries.keys (part l)).Nodup) {x : υ} :
    Entries.get? key (stack part layers) = some x ↔
      ∃ before l after, layers = before ++ l :: after ∧ Entries.get? key (part l) = some x ∧
        ∀ m ∈ after, key ∉ Entries.keys (part m) := by
  rw [get?_stack distinct, List.findSome?_eq_some_iff]
  simp only [← Entries.get?_eq_none_iff]
  constructor
  · rintro ⟨after, l, before, order, found, above⟩
    refine ⟨before.reverse, l, after.reverse, ?_, found, by simpa using above⟩
    simpa using congrArg List.reverse order
  · rintro ⟨before, l, after, rfl, found, above⟩
    exact ⟨after.reverse, l, before.reverse, by simp, found, by simpa using above⟩

/-- What a layer holds under a key stands when no layer above has the key. -/
theorem get?_stack_of_above (part : Layer → Entries String υ) (before : List Layer)
    {after : List Layer} {l : Layer} {x : υ} (distinct : (Entries.keys (part l)).Nodup)
    (found : Entries.get? key (part l) = some x)
    (above : ∀ m ∈ after, key ∉ Entries.keys (part m)) :
    Entries.get? key (stack part (before ++ l :: after)) = some x := by
  induction after using List.reverseRecOn with
  | nil => rw [stack_append_singleton, Entries.get?_update distinct, found, Option.some_or]
  | append_singleton after m ih =>
    have top := above m (by simp)
    have below := ih fun n inside => above n (List.mem_append_left _ inside)
    rw [← List.cons_append, ← List.append_assoc, stack_append_singleton,
      Entries.get?_update_of_notMem top, below]

theorem mem_keys_stack (distinct : ∀ l ∈ layers, (Entries.keys (part l)).Nodup) :
    key ∈ Entries.keys (stack part layers) ↔ ∃ l ∈ layers, key ∈ Entries.keys (part l) := by
  rw [← not_iff_not, ← Entries.get?_eq_none_iff, get?_stack distinct, List.findSome?_eq_none_iff]
  simp [Entries.get?_eq_none_iff]

theorem nodup_keys_stack (part : Layer → Entries String υ) (layers : List Layer) :
    (Entries.keys (stack part layers)).Nodup := by
  induction layers using List.reverseRecOn with
  | nil => exact List.nodup_nil
  | append_singleton layers l ih =>
    rw [stack_append_singleton]
    exact Entries.nodup_keys_update ih

/-- The keys of a stack come from the keys of its layers. -/
theorem keys_stack_congr {ls ms : List Layer}
    (same : ls.map (fun l => Entries.keys (part l)) = ms.map fun l => Entries.keys (part l)) :
    Entries.keys (stack part ls) = Entries.keys (stack part ms) := by
  induction ls using List.reverseRecOn generalizing ms with
  | nil =>
    cases List.map_eq_nil_iff.mp same.symm
    rfl
  | append_singleton ls l ih =>
    rcases List.eq_nil_or_concat ms with rfl | ⟨ms, m, rfl⟩
    · simp at same
    · simp only [List.concat_eq_append, List.map_append, List.map_singleton] at same
      obtain ⟨below, top⟩ := List.append_inj' same rfl
      rw [List.concat_eq_append, stack_append_singleton, stack_append_singleton]
      exact Entries.keys_update_congr (ih below) (List.singleton_inj.mp top)

end Stack

variable {layers : List Layer} {explicit : Members} {key : String}

/-- The names of the layers that set each key last are stacked just as the values are. -/
theorem provenance_eq_stack (layers : List Layer) :
    provenance layers = stack (fun l => l.members.map fun m => (m.1, l.name)) layers := rfl

theorem merge_eq_stack (layers : List Layer) : merge layers = stack Layer.members layers := rfl

/-- A layer that supplies a key with its value: the last one that has the key. -/
def Supplies (layers : List Layer) (key : String) (l : Layer) (v : Value) : Prop :=
  ∃ before after, layers = before ++ l :: after ∧ Entries.get? key l.members = some v ∧
    ∀ m ∈ after, key ∉ Entries.keys m.members

theorem get?_merge_iff (distinct : ∀ l ∈ layers, (Entries.keys l.members).Nodup) {v : Value} :
    Entries.get? key (merge layers) = some v ↔ ∃ l, Supplies layers key l v := by
  rw [merge_eq_stack, get?_stack_iff distinct]
  exact ⟨fun ⟨before, l, after, rest⟩ => ⟨l, before, after, rest⟩,
    fun ⟨l, before, after, rest⟩ => ⟨before, l, after, rest⟩⟩

theorem keys_names (l : Layer) :
    Entries.keys (l.members.map fun m => (m.1, l.name)) = Entries.keys l.members := by
  simp [Entries.keys, Function.comp_def]

theorem get?_provenance_iff (distinct : ∀ l ∈ layers, (Entries.keys l.members).Nodup)
    {name : String} :
    Entries.get? key (provenance layers) = some name ↔
      ∃ l v, Supplies layers key l v ∧ l.name = name := by
  have named (l : Layer) : Entries.get? key (l.members.map fun m => (m.1, l.name)) =
      (Entries.get? key l.members).map fun _ => l.name :=
    Entries.get?_map_values (fun _ => l.name) key l.members
  rw [provenance_eq_stack, get?_stack_iff (by simpa [keys_names] using distinct)]
  simp only [keys_names, named, Option.map_eq_some_iff]
  constructor
  · rintro ⟨before, l, after, order, ⟨v, found, named⟩, above⟩
    exact ⟨l, v, ⟨before, after, order, found, above⟩, named⟩
  · rintro ⟨l, v, ⟨before, after, order, found, above⟩, named⟩
    exact ⟨before, l, after, order, ⟨v, found, named⟩, above⟩

/-- A change of a value below a layer that has the key changes nothing. -/
theorem merge_masked (before after : List Layer) (l : Layer) (v : Value)
    (distinct : ∀ m ∈ before ++ l :: after, (Entries.keys m.members).Nodup)
    (known : key ∈ Entries.keys l.members) (masked : ∃ m ∈ after, key ∈ Entries.keys m.members) :
    merge (before ++ ⟨l.name, Entries.set key v l.members⟩ :: after) =
      merge (before ++ l :: after) := by
  have keys : Entries.keys (Entries.set key v l.members) = Entries.keys l.members := by
    rw [Entries.keys_set, if_pos known]
  have still : ∀ m ∈ before ++ ⟨l.name, Entries.set key v l.members⟩ :: after,
      (Entries.keys m.members).Nodup := by
    intro m inside
    rcases List.mem_append.mp inside with below | above
    · exact distinct m (by simp [below])
    · rcases List.mem_cons.mp above with rfl | above
      · exact keys ▸ distinct l (by simp)
      · exact distinct m (by simp [above])
  refine Entries.ext_of_keys (keys_stack_congr (by simp [keys])) (nodup_keys_stack _ _) fun k => ?_
  rw [merge_eq_stack, merge_eq_stack, get?_stack still, get?_stack distinct]
  simp only [List.reverse_append, List.reverse_cons, List.append_assoc, List.findSome?_append,
    List.findSome?_cons, List.findSome?_nil]
  by_cases here : k = key
  · -- The layer above answers before the changed one is asked.
    subst here
    obtain ⟨m, inside, has⟩ := masked
    obtain ⟨w, found⟩ := Entries.mem_keys_iff.mp has
    have answered : (after.reverse.findSome? fun m => Entries.get? k m.members).isSome :=
      List.findSome?_isSome_iff.mpr ⟨m, List.mem_reverse.mpr inside, by rw [found]; rfl⟩
    obtain ⟨x, first⟩ := Option.isSome_iff_exists.mp answered
    rw [first]
    rfl
  · rw [Entries.get?_set_ne (Ne.symm here)]

theorem provenance_masked (before after : List Layer) (l : Layer) (v : Value)
    (known : key ∈ Entries.keys l.members) :
    provenance (before ++ ⟨l.name, Entries.set key v l.members⟩ :: after) =
      provenance (before ++ l :: after) := by
  have names (ms : Members) : ms.map (fun m => (m.1, l.name)) =
      (Entries.keys ms).map fun k => (k, l.name) := by
    simp [Entries.keys]
  simp only [provenance, List.foldl_append, List.foldl_cons, names, Entries.keys_set, if_pos known]

/-- The layers with what the caller sets on top. -/
def withOverrides (layers : List Layer) (explicit : Members) : List Layer :=
  layers ++ [overrides explicit]

/-- Of what the caller sets, absent values are left out. -/
theorem get?_overrides_iff (distinct : (Entries.keys explicit).Nodup) {v : Value} :
    Entries.get? key (overrides explicit).members = some v ↔
      Entries.get? key explicit = some v ∧ v ≠ .null := by
  have kept : Entries.get? key (overrides explicit).members =
      (Entries.get? key explicit).filter fun v => !v.isNull :=
    Entries.get?_filter_values distinct (fun v => !v.isNull) key
  rw [kept, Option.filter_eq_some_iff]
  refine and_congr_right' ?_
  cases v <;> simp [Value.isNull]

theorem load_eq_ok_iff (present : layers ≠ []) {loaded : Loaded} :
    load layers explicit = .ok loaded ↔
      Settings.ofMembers (merge (withOverrides layers explicit)) = .ok loaded.settings ∧
        loaded.provenance = provenance (withOverrides layers explicit) := by
  unfold load withOverrides
  rw [if_neg (by simpa using present)]
  dsimp only
  cases Settings.ofMembers (merge (layers ++ [overrides explicit])) with
  | error rejection => simp
  | ok s =>
    obtain ⟨settings, provenance⟩ := loaded
    simp [eq_comm]

theorem nodup_withOverrides (distinct : ∀ l ∈ layers, (Entries.keys l.members).Nodup)
    (given : (Entries.keys explicit).Nodup) :
    ∀ l ∈ withOverrides layers explicit, (Entries.keys l.members).Nodup := by
  intro l inside
  rcases List.mem_append.mp inside with below | top
  · exact distinct l below
  · rw [List.mem_singleton.mp top]
    exact given.sublist (Entries.keys_filter_sublist _ explicit)

/-- Layers load when their keys are fields and the values that prevail are valid. -/
theorem exists_load_iff (present : layers ≠ [])
    (distinct : ∀ l ∈ withOverrides layers explicit, (Entries.keys l.members).Nodup) :
    (∃ loaded, load layers explicit = .ok loaded) ↔
      (∀ l ∈ withOverrides layers explicit, ∀ key ∈ Entries.keys l.members,
        key ∈ Settings.fields) ∧
      ∀ (f : Field) l v, Supplies (withOverrides layers explicit) f.name l v → f.Accepts v := by
  have read : (∃ loaded, load layers explicit = .ok loaded) ↔
      ∃ s, Settings.ofMembers (merge (withOverrides layers explicit)) = .ok s := by
    simp only [load_eq_ok_iff present]
    exact ⟨fun ⟨loaded, ok, _⟩ => ⟨loaded.settings, ok⟩, fun ⟨s, ok⟩ => ⟨⟨s, _⟩, ok, rfl⟩⟩
  have occurs (key : String) : key ∈ Entries.keys (merge (withOverrides layers explicit)) ↔
      ∃ l ∈ withOverrides layers explicit, key ∈ Entries.keys l.members := mem_keys_stack distinct
  rw [read, Settings.exists_ofMembers_iff]
  refine and_congr ?_ (forall_congr' fun f => ?_)
  · constructor
    · intro known l inside key has
      exact known key ((occurs key).mpr ⟨l, inside, has⟩)
    · intro known key has
      obtain ⟨l, inside, has⟩ := (occurs key).mp has
      exact known l inside key has
  · simp only [get?_merge_iff distinct]
    constructor
    · exact fun accepts l v supplies => accepts v ⟨l, supplies⟩
    · rintro accepts v ⟨l, supplies⟩
      exact accepts l v supplies

/-- A loaded field holds what its check makes of the merged value. -/
theorem holds_of_load (present : layers ≠ []) {loaded : Loaded}
    (loads : load layers explicit = .ok loaded) (f : Field) :
    f.Holds (Entries.get? f.name (merge (withOverrides layers explicit)))
      (f.get loaded.settings) :=
  (Settings.ofMembers_eq_ok_iff.mp ((load_eq_ok_iff present).mp loads).1).2 f

theorem load_masked {before after : List Layer} {l : Layer} {v : Value}
    (distinct : ∀ m ∈ withOverrides (before ++ l :: after) explicit,
      (Entries.keys m.members).Nodup)
    (known : key ∈ Entries.keys l.members)
    (masked : ∃ m ∈ withOverrides after explicit, key ∈ Entries.keys m.members) :
    load (before ++ ⟨l.name, Entries.set key v l.members⟩ :: after) explicit =
      load (before ++ l :: after) explicit := by
  have below := merge_masked before (withOverrides after explicit) l v
    (by simpa [withOverrides] using distinct) known masked
  have named := provenance_masked before (withOverrides after explicit) l v known
  simp only [withOverrides] at below named
  simp only [load, List.append_assoc, List.cons_append, below, named]
  simp

/-- How layers make settings. -/
structure Prevails (layers : List Layer) (explicit : Members) : Prop where
  overrides : ∀ key v, Entries.get? key (overrides explicit).members = some v ↔
    Entries.get? key explicit = some v ∧ v ≠ .null
  loads : (∃ loaded, load layers explicit = .ok loaded) ↔
    (∀ l ∈ withOverrides layers explicit, ∀ key ∈ Entries.keys l.members, key ∈ Settings.fields) ∧
      ∀ (f : Field) l v, Supplies (withOverrides layers explicit) f.name l v → f.Accepts v
  supplied : ∀ loaded, load layers explicit = .ok loaded → ∀ (f : Field) l v,
    Supplies (withOverrides layers explicit) f.name l v →
      f.check v = .passed (f.get loaded.settings)
  absent : ∀ loaded, load layers explicit = .ok loaded → ∀ f : Field,
    (∀ l ∈ withOverrides layers explicit, f.name ∉ Entries.keys l.members) →
      f.get loaded.settings = f.get Settings.default
  provenance : ∀ loaded, load layers explicit = .ok loaded → ∀ key name,
    Entries.get? key loaded.provenance = some name ↔
      ∃ l v, Supplies (withOverrides layers explicit) key l v ∧ l.name = name
  occurring : ∀ loaded, load layers explicit = .ok loaded → ∀ key,
    key ∈ Entries.keys loaded.provenance ↔
      ∃ l ∈ withOverrides layers explicit, key ∈ Entries.keys l.members
  rejected : ∀ f, load layers explicit = .error f → f.isConfiguration = true
  masked : ∀ before l after key v, layers = before ++ l :: after → key ∈ Entries.keys l.members →
    (∃ m ∈ withOverrides after explicit, key ∈ Entries.keys m.members) →
      load (before ++ ⟨l.name, Entries.set key v l.members⟩ :: after) explicit =
        load layers explicit

/-- Every field comes from the last layer that has it, and so does its provenance. -/
theorem prevails_of_distinct (present : layers ≠ [])
    (distinct : ∀ l ∈ layers, (Entries.keys l.members).Nodup)
    (given : (Entries.keys explicit).Nodup) : Prevails layers explicit := by
  have mappings := nodup_withOverrides distinct given
  constructor
  case overrides => exact fun key v => get?_overrides_iff given
  case loads => exact exists_load_iff present mappings
  case supplied =>
    intro loaded loads f l v supplies
    have held := holds_of_load present loads f
    rw [(get?_merge_iff mappings).mpr ⟨l, supplies⟩] at held
    exact held
  case absent =>
    intro loaded loads f nowhere
    have held := holds_of_load present loads f
    have missing : f.name ∉ Entries.keys (merge (withOverrides layers explicit)) := by
      rw [merge_eq_stack, mem_keys_stack mappings]
      rintro ⟨l, inside, has⟩
      exact nowhere l inside has
    rw [Entries.get?_eq_none_iff.mpr missing] at held
    exact held
  case provenance =>
    intro loaded loads key name
    rw [((load_eq_ok_iff present).mp loads).2, get?_provenance_iff mappings]
  case occurring =>
    intro loaded loads key
    rw [((load_eq_ok_iff present).mp loads).2, provenance_eq_stack,
      mem_keys_stack (by simpa [keys_names] using mappings)]
    simp only [keys_names]
  case rejected => exact fun f failed => load_layers present failed
  case masked =>
    rintro before l after key v rfl known masked
    exact load_masked mappings known masked

/-- A word that is no boolean stands below one that is, and an absent value above it. -/
theorem prevails_masking :
    load [⟨"base", [("strict", .text "perhaps"), ("command", .text "mix credo")]⟩,
        ⟨"project", [("strict", .text "yes"), ("config_name", .null)]⟩]
        [("strict", .null), ("event", .text "on-load")] =
      .ok ⟨{ Settings.default with strict := true, event := "on-load" },
        [("strict", "project"), ("command", "base"), ("config_name", "project"),
          ("event", "overrides")]⟩ ∧
    Prevails [⟨"base", [("strict", .text "perhaps"), ("command", .text "mix credo")]⟩,
        ⟨"project", [("strict", .text "yes"), ("config_name", .null)]⟩]
      [("strict", .null), ("event", .text "on-load")] :=
  ⟨by decide +kernel, prevails_of_distinct (by decide) (by decide) (by decide)⟩

end CredoAssistant.Layer
