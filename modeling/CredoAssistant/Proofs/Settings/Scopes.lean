import CredoAssistant.Proofs.Settings.Validity
import CredoAssistant.Settings.Scopes

/-!
Settings from scopes. Each field asks the workspace first, where a falsy value counts as unset, then
the global scope, where only null does, and keeps what it was before when neither answers. The
fields do not meddle: one value that does not fit is told in the same words whatever the settings
were before, and what the scopes hold under other names has no say.
-/
namespace CredoAssistant

/-- The values that count as unset in a workspace. NaN is not among them. -/
inductive Value.IsFalsy : Value → Prop
  | null : IsFalsy .null
  | no : IsFalsy (.bool false)
  | zeroInteger : IsFalsy (.int 0)
  | zeroNumber (negative : Bool) (exponent : Int) : IsFalsy (.float (.finite negative 0 exponent))
  | emptyText : IsFalsy (.text "")
  | emptyList : IsFalsy (.list [])
  | emptyObject : IsFalsy (.object [])

theorem Value.isTruthy_eq_false_iff {v : Value} : v.isTruthy = false ↔ v.IsFalsy := by
  constructor
  · intro falsy
    cases v with
    | null => exact .null
    | bool b =>
      cases b with
      | false => exact .no
      | true => cases falsy
    | int i =>
      obtain rfl : i = 0 := by simpa [isTruthy] using falsy
      exact .zeroInteger
    | float x =>
      cases x with
      | nan => cases falsy
      | infinite s => cases falsy
      | finite s m e =>
        cases m with
        | zero => exact .zeroNumber s e
        | succ m => cases falsy
    | text s =>
      obtain rfl : s = "" := by simpa [isTruthy] using falsy
      exact .emptyText
    | moment m => cases falsy
    | list items =>
      cases items with
      | nil => exact .emptyList
      | cons item items => cases falsy
    | object ms =>
      cases ms with
      | nil => exact .emptyObject
      | cons m ms => cases falsy
  · rintro (_ | _) <;> rfl

theorem Value.ne_null_of_truthy {v : Value} (truthy : ¬ v.IsFalsy) : v ≠ .null := by
  rintro rfl
  exact truthy .null

namespace Scopes

open Settings (Field)

/-- The value that the scopes give a field, if they do. -/
inductive Gives (s : Scopes) (f : Field) : Option Value → Prop
  | workspace {v : Value} (found : Entries.get? (preference f.name) s.workspace = some v)
      (truthy : ¬ v.IsFalsy) : Gives s f (some v)
  | global {v : Value}
      (unset : ∀ w, Entries.get? (preference f.name) s.workspace = some w → w.IsFalsy)
      (found : Entries.get? (preference f.name) s.global = some v) (present : v ≠ .null) :
      Gives s f (some v)
  | neither
      (unset : ∀ w, Entries.get? (preference f.name) s.workspace = some w → w.IsFalsy)
      (absent : ∀ v, Entries.get? (preference f.name) s.global = some v → v = .null) :
      Gives s f none

theorem get_of_truthy {s : Scopes} {name : String} {v : Value}
    (found : Entries.get? name s.workspace = some v) (truthy : ¬ v.IsFalsy) : s.get name = v := by
  have shown : v.isTruthy = true := by
    rwa [← Value.isTruthy_eq_false_iff, Bool.not_eq_false] at truthy
  simp only [get, found, shown, if_true]

theorem get_of_unset {s : Scopes} {name : String}
    (unset : ∀ w, Entries.get? name s.workspace = some w → w.IsFalsy) :
    s.get name = (Entries.get? name s.global).getD .null := by
  cases found : Entries.get? name s.workspace with
  | none => simp only [get, found]
  | some w =>
    have falsy := Value.isTruthy_eq_false_iff.mpr (unset w found)
    simp only [get, found, falsy, Bool.false_eq_true, if_false]

theorem keys_overrides_sublist (s : Scopes) :
    (Entries.keys s.overrides).Sublist Settings.fields := by
  have whole := Entries.keys_map_keys (fun field => s.get (preference field)) Settings.fields
  conv_rhs => rw [← whole]
  exact Entries.keys_filter_sublist _ _

theorem nodup_fields : Settings.fields.Nodup := by decide

theorem get?_overrides (s : Scopes) (f : Field) :
    Entries.get? f.name s.overrides =
      (some (s.get (preference f.name))).filter fun v => !v.isNull := by
  have looked := Entries.get?_map_keys (fun field => s.get (preference field))
    (Field.mem_fields_iff.mpr ⟨f, rfl⟩)
  have distinct := Entries.keys_map_keys (fun field => s.get (preference field)) Settings.fields
  rw [overrides, ← looked]
  exact Entries.get?_filter_values (distinct ▸ nodup_fields) (fun v => !v.isNull) f.name

/-- The fields that are overridden are those that the scopes give a value, and with that value. -/
theorem gives_iff {s : Scopes} {f : Field} {given : Option Value} :
    s.Gives f given ↔ Entries.get? f.name s.overrides = given := by
  rw [get?_overrides]
  constructor
  · intro gives
    cases gives with
    | workspace found truthy =>
      rw [get_of_truthy found truthy]
      exact Value.filter_of_ne_null (Value.ne_null_of_truthy truthy)
    | global unset found present =>
      rw [get_of_unset unset, found]
      exact Value.filter_of_ne_null present
    | neither unset absent =>
      rw [get_of_unset unset]
      cases found : Entries.get? (preference f.name) s.global with
      | none => rfl
      | some v =>
        rw [absent v found]
        rfl
  · rintro rfl
    by_cases unset : ∀ w, Entries.get? (preference f.name) s.workspace = some w → w.IsFalsy
    · rw [get_of_unset unset]
      cases found : Entries.get? (preference f.name) s.global with
      | none => exact .neither unset (by simp [found])
      | some v =>
        by_cases null : v = .null
        · subst null
          exact .neither unset (by simp [found])
        · rw [Option.getD_some, Value.filter_of_ne_null null]
          exact .global unset found null
    · push Not at unset
      obtain ⟨v, found, truthy⟩ := unset
      rw [get_of_truthy found truthy, Value.filter_of_ne_null (Value.ne_null_of_truthy truthy)]
      exact .workspace found truthy

/-- The scopes give every field one value or none. -/
theorem gives_unique (s : Scopes) (f : Field) : ∃! given, s.Gives f given :=
  ⟨_, gives_iff.mpr rfl, fun _ gives => (gives_iff.mp gives).symm⟩

/-- The members that settings are read from: those of the scopes on top of those of the base. -/
def members (s : Scopes) (base : Settings) : Members := Entries.update base.toMembers s.overrides

theorem mem_fields_of_members {s : Scopes} {base : Settings} {key : String}
    (has : key ∈ Entries.keys (s.members base)) : key ∈ Settings.fields := by
  rcases Entries.mem_keys_update.mp has with below | above
  · exact below
  · exact s.keys_overrides_sublist.subset above

theorem get?_members (s : Scopes) (base : Settings) (f : Field) :
    Entries.get? f.name (s.members base) =
      (Entries.get? f.name s.overrides).or (some (f.value base)) := by
  rw [members, Entries.get?_update (s.keys_overrides_sublist.nodup nodup_fields),
    Field.get?_toMembers]

/-- A field holds what the scopes give it, and what the base holds when they give nothing. -/
theorem ofMembers_members {s : Scopes} {base r : Settings} (valid : base.IsValid) :
    Settings.ofMembers (s.members base) = .ok r ↔
      ∀ f given, s.Gives f given →
        Validation.Answers f.check (f.get base) given (f.get r) := by
  have held (f : Field) : f.Holds (Entries.get? f.name (s.members base)) (f.get r) ↔
      Validation.Answers f.check (f.get base) (Entries.get? f.name s.overrides) (f.get r) := by
    rw [get?_members]
    cases Entries.get? f.name s.overrides with
    | some v => rfl
    | none =>
      change f.check (f.value base) = _ ↔ _
      rw [Field.check_value valid, Checked.passed.injEq, eq_comm]
      rfl
  simp only [Settings.ofMembers_eq_ok_iff, held, gives_iff, forall_eq', and_iff_right_iff_imp]
  exact fun _ key => mem_fields_of_members

theorem settings_eq {s : Scopes} {base : Settings} (valid : base.IsValid) :
    s.settings base = Settings.ofMembers (s.members base) := by
  unfold settings
  split
  · rename_i none
    refine (ofMembers_members valid).mpr (fun f given gives => ?_) |>.symm
    rw [← gives_iff.mp gives, none]
    rfl
  · rfl

/-- The faults of the values that the scopes give, field by field. -/
def faults (s : Scopes) : List Fault :=
  Field.all.flatMap fun f => f.faults (Entries.get? f.name s.overrides)

/-- The base is valid, so no fault is its own. -/
theorem faults_members (s : Scopes) {base : Settings} (valid : base.IsValid) :
    (Settings.checkMembers (s.members base)).faults = s.faults := by
  have stray : Settings.strayFaults (s.members base) = [] := by
    have known : ∀ m ∈ s.members base, m.1 ∈ Settings.fields := fun m inside =>
      mem_fields_of_members (List.mem_map_of_mem inside)
    simpa [Settings.strayFaults] using known
  have each (f : Field) : f.faults (Entries.get? f.name (s.members base)) =
      f.faults (Entries.get? f.name s.overrides) := by
    rw [get?_members]
    cases Entries.get? f.name s.overrides with
    | some v => rfl
    | none => exact Field.faults_of_passed (Field.check_value valid f)
  simp only [Settings.faults_checkMembers, stray, each, List.append_nil, faults]

/-- There are settings when every value that the scopes give is accepted. -/
theorem exists_settings_iff {s : Scopes} {base : Settings} (valid : base.IsValid) :
    (∃ r, s.settings base = .ok r) ↔ ∀ (f : Field) v, s.Gives f (some v) → f.Accepts v := by
  simp only [settings_eq valid, ofMembers_members valid]
  constructor
  · rintro ⟨r, holds⟩ f v gives
    exact ⟨f.get r, holds f (some v) gives⟩
  · intro accepted
    have each (f : Field) : ∃ x, ∀ given, s.Gives f given →
        Validation.Answers f.check (f.get base) given x := by
      obtain ⟨given, gives, only⟩ := s.gives_unique f
      cases given with
      | none => exact ⟨f.get base, fun other also => only other also ▸ rfl⟩
      | some v =>
        obtain ⟨x, passed⟩ := accepted f v gives
        exact ⟨x, fun other also => only other also ▸ passed⟩
    choose values holds using each
    refine ⟨Field.settingsOf values, fun f given gives => ?_⟩
    rw [Field.get_settingsOf]
    exact holds f given gives

theorem settings_eq_error_iff {s : Scopes} {base : Settings} (valid : base.IsValid)
    {r : Rejection} :
    s.settings base = .error r ↔
      (∃ (f : Field) (v : Value), s.Gives f (some v) ∧ ¬ f.Accepts v) ∧
        r = ⟨.settings, s.faults⟩ := by
  have failed : (∀ x, Settings.checkMembers (s.members base) ≠ .passed x) ↔
      ∃ (f : Field) (v : Value), s.Gives f (some v) ∧ ¬ f.Accepts v := by
    have read (x : Settings) : Settings.checkMembers (s.members base) = .passed x ↔
        s.settings base = .ok x := by
      rw [settings_eq valid, Settings.ofMembers, Checked.toExcept_eq_ok]
    simp only [ne_eq, read, ← not_exists, exists_settings_iff valid]
    push Not
    rfl
  rw [settings_eq valid, Settings.ofMembers, Checked.toExcept_eq_error, failed,
    faults_members s valid]

/-- Settings hang on the nine preferences alone. -/
theorem settings_congr {s other : Scopes} (base : Settings)
    (workspace : ∀ f : Field, Entries.get? (preference f.name) other.workspace =
      Entries.get? (preference f.name) s.workspace)
    (global : ∀ f : Field, Entries.get? (preference f.name) other.global =
      Entries.get? (preference f.name) s.global) :
    other.settings base = s.settings base := by
  have same : other.overrides = s.overrides := by
    have looked : Settings.fields.map (fun field => (field, other.get (preference field))) =
        Settings.fields.map fun field => (field, s.get (preference field)) := by
      refine List.map_congr_left fun field known => ?_
      obtain ⟨f, rfl⟩ := Field.mem_fields_iff.mp known
      simp only [get, workspace f, global f]
    rw [overrides, looked, overrides]
  simp only [settings, same]

/-- How each field of some settings is resolved from scopes. -/
structure Resolves (s : Scopes) (base : Settings) : Prop where
  unique : ∀ f, ∃! given, s.Gives f given
  unaltered : Settings.ofMembers base.toMembers = .ok base
  returned_iff : (∃ r, s.settings base = .ok r) ↔
    ∀ (f : Field) v, s.Gives f (some v) → f.Accepts v
  given : ∀ r, s.settings base = .ok r → ∀ (f : Field) v, s.Gives f (some v) →
    f.check v = .passed (f.get r)
  kept : ∀ r, s.settings base = .ok r → ∀ f : Field, s.Gives f none → f.get r = f.get base
  rejected_iff : ∀ r, s.settings base = .error r ↔
    (∃ (f : Field) (v : Value), s.Gives f (some v) ∧ ¬ f.Accepts v) ∧ r = ⟨.settings, s.faults⟩
  unaffected : ∀ other : Scopes,
    (∀ f : Field, Entries.get? (preference f.name) other.workspace =
      Entries.get? (preference f.name) s.workspace) →
    (∀ f : Field, Entries.get? (preference f.name) other.global =
      Entries.get? (preference f.name) s.global) → other.settings base = s.settings base

/-- Scopes resolve every field of settings that were read, each on its own. -/
theorem resolves_of_read (s : Scopes) {base : Settings} {ms : Members}
    (read : Settings.ofMembers ms = .ok base) : Resolves s base := by
  have valid : base.IsValid := Settings.isValid_iff.mpr ⟨ms, read⟩
  have holds {r : Settings} (returned : s.settings base = .ok r) :=
    (ofMembers_members valid).mp (settings_eq valid ▸ returned)
  exact
    { unique := s.gives_unique
      unaltered := Settings.ofMembers_toMembers valid
      returned_iff := exists_settings_iff valid
      given := fun r returned f v gives => holds returned f (some v) gives
      kept := fun r returned f gives => holds returned f none gives
      rejected_iff := fun r => settings_eq_error_iff valid
      unaffected := fun other workspace global => settings_congr base workspace global }

/-- A negative zero and an empty text of the workspace leave it to the global scope, where zero
counts and null does not. -/
theorem resolves_falsy :
    Settings.ofMembers [("strict", .text "yes"), ("command", .text "mix lint")] =
        .ok { Settings.default with strict := true, command := ["mix", "lint"] } ∧
      settings
          ⟨[("credo.strict", .float (.zero true)), ("credo.command", .text ""),
              ("credo.extra_args", .text "--all 'a b'")],
            [("credo.command", .null), ("credo.strict", .int 0), ("credo.extra_args", .bool true),
              ("strict", .bool true)]⟩
          { Settings.default with strict := true, command := ["mix", "lint"] } =
        .ok { Settings.default with command := ["mix", "lint"], extraArgs := ["--all", "a b"] } ∧
      Resolves
        ⟨[("credo.strict", .float (.zero true)), ("credo.command", .text ""),
            ("credo.extra_args", .text "--all 'a b'")],
          [("credo.command", .null), ("credo.strict", .int 0), ("credo.extra_args", .bool true),
            ("strict", .bool true)]⟩
        { Settings.default with strict := true, command := ["mix", "lint"] } :=
  have read : Settings.ofMembers [("strict", .text "yes"), ("command", .text "mix lint")] =
      .ok { Settings.default with strict := true, command := ["mix", "lint"] } := by
    decide +kernel
  ⟨read, by decide +kernel, resolves_of_read _ read⟩

end Scopes

end CredoAssistant
