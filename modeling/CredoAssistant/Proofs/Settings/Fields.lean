import CredoAssistant.Proofs.Entries
import CredoAssistant.Proofs.Validation
import CredoAssistant.Settings.Basic
import Mathlib.Logic.Function.Basic

/-!
Reading settings field by field. Every way to read settings goes through this one check. Each field
has a check of its own, so members are settings exactly when every one of them is a field and passes
the check of that field, whatever the others are. A field is named by a constructor of its own, so
that such laws are stated once for all of them.
-/
namespace CredoAssistant.Settings

open Validation

/-- Settings are read when every field passes its own check and no member is left over. -/
theorem checkMembers_eq_passed {ms : Members} {s : Settings} :
    checkMembers ms = .passed s ↔
      defaulted ms "launcher" default.launcher text = .passed s.launcher ∧
      defaultedList ms "command" default.command nonemptyWords = .passed s.command ∧
      defaultedList ms "extra_args" default.extraArgs words = .passed s.extraArgs ∧
      defaulted ms "strict" default.strict boolean = .passed s.strict ∧
      defaulted ms "config_name" default.configName (nullable text) = .passed s.configName ∧
      defaulted ms "timeout" default.timeout (nullable nonNegative) = .passed s.timeout ∧
      defaulted ms "clear_on_failure" default.clearOnFailure boolean = .passed s.clearOnFailure ∧
      defaultedList ms "syntaxes" default.syntaxes words = .passed s.syntaxes ∧
      defaulted ms "event" default.event text = .passed s.event ∧ closed ms = .passed () := by
  simp only [checkMembers, Checked.seq_eq_passed, Checked.map_eq_passed]
  constructor
  · rintro ⟨_, _, ⟨_, _, ⟨_, _, ⟨_, _, ⟨_, _, ⟨_, _, ⟨_, _, ⟨_, _, ⟨_, _, ⟨_, launcher, rfl⟩,
      command, rfl⟩, extraArgs, rfl⟩, strict, rfl⟩, configName, rfl⟩, timeout, rfl⟩,
      clearOnFailure, rfl⟩, syntaxes, rfl⟩, event, rfl⟩, stray, rfl⟩
    exact ⟨launcher, command, extraArgs, strict, configName, timeout, clearOnFailure, syntaxes,
      event, stray⟩
  · rintro ⟨launcher, command, extraArgs, strict, configName, timeout, clearOnFailure, syntaxes,
      event, stray⟩
    exact ⟨_, _, ⟨_, _, ⟨_, _, ⟨_, _, ⟨_, _, ⟨_, _, ⟨_, _, ⟨_, _, ⟨_, _, ⟨_, launcher, rfl⟩,
      command, rfl⟩, extraArgs, rfl⟩, strict, rfl⟩, configName, rfl⟩, timeout, rfl⟩,
      clearOnFailure, rfl⟩, syntaxes, rfl⟩, event, rfl⟩, stray, rfl⟩

theorem defaultedList_iff {ms : Members} {field : String} {fallback x : List String}
    {rule : String → Value → Checked (List String)} :
    defaultedList ms field fallback rule = .passed x ↔
      Answers (rule field) fallback (Entries.get? field ms) x := by
  unfold defaultedList
  cases Entries.get? field ms <;> simp [Answers, eq_comm]

/-- The fields of settings. -/
inductive Field
  | launcher
  | command
  | extraArgs
  | strict
  | configName
  | timeout
  | clearOnFailure
  | syntaxes
  | event
  deriving DecidableEq, Repr

namespace Field

def name : Field → String
  | launcher => "launcher"
  | command => "command"
  | extraArgs => "extra_args"
  | strict => "strict"
  | configName => "config_name"
  | timeout => "timeout"
  | clearOnFailure => "clear_on_failure"
  | syntaxes => "syntaxes"
  | event => "event"

/-- The type of the values of a field. -/
abbrev Carrier : Field → Type
  | launcher | event => String
  | command | extraArgs | syntaxes => List String
  | strict | clearOnFailure => Bool
  | configName => Option String
  | timeout => Option Binary64

def get (s : Settings) : (f : Field) → f.Carrier
  | launcher => s.launcher
  | command => s.command
  | extraArgs => s.extraArgs
  | strict => s.strict
  | configName => s.configName
  | timeout => s.timeout
  | clearOnFailure => s.clearOnFailure
  | syntaxes => s.syntaxes
  | event => s.event

/-- The check of a value that is given for a field. -/
def check : (f : Field) → Value → Checked f.Carrier
  | launcher, v => .ofExcept "launcher" v (text v)
  | command, v => nonemptyWords "command" v
  | extraArgs, v => words "extra_args" v
  | strict, v => .ofExcept "strict" v (boolean v)
  | configName, v => .ofExcept "config_name" v (nullable text v)
  | timeout, v => .ofExcept "timeout" v (nullable nonNegative v)
  | clearOnFailure, v => .ofExcept "clear_on_failure" v (boolean v)
  | syntaxes, v => words "syntaxes" v
  | event, v => .ofExcept "event" v (text v)

/-- A value that passes the check of the field. -/
def Accepts (f : Field) (v : Value) : Prop := ∃ x, f.check v = .passed x

/-- What a field holds: what the value given for it stands for, and the default when none is given.
-/
def Holds (f : Field) : Option Value → f.Carrier → Prop := Answers f.check (f.get default)

theorem exists_holds_iff {f : Field} {given : Option Value} :
    (∃ x, f.Holds given x) ↔ ∀ v, given = some v → f.Accepts v := by
  cases given with
  | none => exact iff_of_true ⟨f.get default, rfl⟩ fun v none => by cases none
  | some v => simp [Holds, Answers, Accepts]

theorem name_injective : Function.Injective name := by
  intro f g
  cases f <;> cases g <;> simp [name]

theorem mem_fields_iff {key : String} : key ∈ fields ↔ ∃ f : Field, f.name = key := by
  constructor
  · intro known
    simp only [fields, List.mem_cons, List.not_mem_nil, or_false] at known
    rcases known with rfl | rfl | rfl | rfl | rfl | rfl | rfl | rfl | rfl
    · exact ⟨launcher, rfl⟩
    · exact ⟨command, rfl⟩
    · exact ⟨extraArgs, rfl⟩
    · exact ⟨strict, rfl⟩
    · exact ⟨configName, rfl⟩
    · exact ⟨timeout, rfl⟩
    · exact ⟨clearOnFailure, rfl⟩
    · exact ⟨syntaxes, rfl⟩
    · exact ⟨event, rfl⟩
  · rintro ⟨f, rfl⟩
    cases f <;> decide

/-- What holds of every field holds of the nine. -/
theorem forall_iff {p : Field → Prop} :
    (∀ f, p f) ↔ p launcher ∧ p command ∧ p extraArgs ∧ p strict ∧ p configName ∧ p timeout ∧
      p clearOnFailure ∧ p syntaxes ∧ p event := by
  constructor
  · exact fun all => ⟨all _, all _, all _, all _, all _, all _, all _, all _, all _⟩
  · rintro ⟨launcher, command, extraArgs, strict, configName, timeout, clearOnFailure, syntaxes,
      event⟩ f
    cases f <;> assumption

/-- Settings put together from what each field holds. -/
def settingsOf (values : (f : Field) → f.Carrier) : Settings :=
  ⟨values launcher, values command, values extraArgs, values strict, values configName,
    values timeout, values clearOnFailure, values syntaxes, values event⟩

theorem get_settingsOf (values : (f : Field) → f.Carrier) (f : Field) :
    f.get (settingsOf values) = values f := by
  cases f <;> rfl

/-- Settings with another value in one field. -/
def put (f : Field) (x : f.Carrier) (s : Settings) : Settings :=
  settingsOf (Function.update (fun g => g.get s) f x)

theorem get_put_self (f : Field) (x : f.Carrier) (s : Settings) : f.get (f.put x s) = x := by
  rw [put, get_settingsOf, Function.update_self]

theorem get_put_ne {f g : Field} (other : g ≠ f) (x : f.Carrier) (s : Settings) :
    g.get (f.put x s) = g.get s := by
  rw [put, get_settingsOf, Function.update_of_ne other]

end Field

theorem closed_eq_passed {ms : Members} :
    closed ms = .passed () ↔ ∀ key ∈ Entries.keys ms, key ∈ fields := by
  have stray : strayFaults ms = [] ↔ ∀ key ∈ Entries.keys ms, key ∈ fields := by
    simp [strayFaults, Entries.keys]
  rw [← stray, closed]
  cases strayFaults ms <;> simp

/-- Members are settings exactly when every key is a field and every field holds what is given for
it. -/
theorem ofMembers_eq_ok_iff {ms : Members} {s : Settings} :
    ofMembers ms = .ok s ↔ (∀ key ∈ Entries.keys ms, key ∈ fields) ∧
      ∀ f : Field, f.Holds (Entries.get? f.name ms) (f.get s) := by
  rw [ofMembers, Checked.toExcept_eq_ok, checkMembers_eq_passed, closed_eq_passed, Field.forall_iff]
  simp only [defaulted_iff, defaultedList_iff]
  constructor
  · rintro ⟨launcher, command, extraArgs, strict, configName, timeout, clearOnFailure, syntaxes,
      event, known⟩
    exact ⟨known, launcher, command, extraArgs, strict, configName, timeout, clearOnFailure,
      syntaxes, event⟩
  · rintro ⟨known, launcher, command, extraArgs, strict, configName, timeout, clearOnFailure,
      syntaxes, event⟩
    exact ⟨launcher, command, extraArgs, strict, configName, timeout, clearOnFailure, syntaxes,
      event, known⟩

/-- Whether there are settings at all is decided field by field too. -/
theorem exists_ofMembers_iff {ms : Members} :
    (∃ s, ofMembers ms = .ok s) ↔ (∀ key ∈ Entries.keys ms, key ∈ fields) ∧
      ∀ (f : Field) v, Entries.get? f.name ms = some v → f.Accepts v := by
  simp only [ofMembers_eq_ok_iff, exists_and_left, ← Field.exists_holds_iff]
  refine and_congr_right' ⟨fun ⟨s, holds⟩ f => ⟨f.get s, holds f⟩, fun each => ?_⟩
  choose values holds using each
  exact ⟨Field.settingsOf values, fun f => by rw [Field.get_settingsOf]; exact holds f⟩

/-- A field accepts the values that settings may be made of on their own. -/
theorem Field.accepts_iff {f : Field} {v : Value} :
    f.Accepts v ↔ ∃ s, ofMembers [(f.name, v)] = .ok s := by
  rw [exists_ofMembers_iff]
  constructor
  · intro accepted
    refine ⟨fun key present => ?_, fun g w found => ?_⟩
    · exact Field.mem_fields_iff.mpr ⟨f, (List.mem_singleton.mp present).symm⟩
    · simp only [Entries.get?, Option.ite_none_right_eq_some, Option.some.injEq] at found
      obtain ⟨same, rfl⟩ := found
      cases Field.name_injective same
      exact accepted
  · rintro ⟨_, accepted⟩
    exact accepted f v (by simp [Entries.get?])

/-- A value given for a field decides about this field and about no other: the rest is settings as
it is without it. -/
theorem ofMembers_eq_ok_iff_erase {f : Field} {v : Value} {ms : Members} {s : Settings}
    (given : Entries.get? f.name ms = some v) :
    ofMembers ms = .ok s ↔ f.check v = .passed (f.get s) ∧
      ofMembers (Entries.erase f.name ms) = .ok (f.put (f.get default) s) := by
  have apart {g : Field} (other : g ≠ f) :
      Entries.get? g.name (Entries.erase f.name ms) = Entries.get? g.name ms :=
    Entries.get?_erase_ne (fun same => other (Field.name_injective same).symm) ms
  simp only [ofMembers_eq_ok_iff]
  constructor
  · rintro ⟨known, holds⟩
    have passed := holds f
    rw [given] at passed
    refine ⟨passed, fun key stays => known key (Entries.mem_keys_erase.mp stays).2, fun g => ?_⟩
    by_cases here : g = f
    · subst here
      rw [Entries.get?_erase_self]
      exact Field.get_put_self g _ s
    · rw [apart here, Field.get_put_ne here]
      exact holds g
  · rintro ⟨passed, known, holds⟩
    refine ⟨fun key present => ?_, fun g => ?_⟩
    · by_cases here : key = f.name
      · exact Field.mem_fields_iff.mpr ⟨f, here.symm⟩
      · exact known key (Entries.mem_keys_erase.mpr ⟨here, present⟩)
    · by_cases here : g = f
      · subst here
        rw [given]
        exact passed
      · have held := holds g
        rw [apart here, Field.get_put_ne here] at held
        exact held

end CredoAssistant.Settings
