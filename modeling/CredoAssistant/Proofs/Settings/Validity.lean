import CredoAssistant.Proofs.Settings.TimeLimit

/-!
Valid settings. What settings were read from does not matter once they are read: they name a command
and their time limit is no less than zero, and settings with these two properties pass every check
again as they stand. Where values do not pass, the faults of each field come in the order of the
fields, and a field that passes adds none.
-/
namespace CredoAssistant.Settings

open Validation

/-- The command names a word, and a time limit, if there is one, is a number of zero or above. -/
structure IsValid (s : Settings) : Prop where
  command : s.command ≠ []
  timeout : ∀ t ∈ s.timeout, t.isNonNegative = true

instance (s : Settings) : Decidable s.IsValid :=
  decidable_of_iff (s.command ≠ [] ∧ ∀ t ∈ s.timeout, t.isNonNegative = true)
    ⟨fun ⟨command, timeout⟩ => ⟨command, timeout⟩, fun ⟨command, timeout⟩ => ⟨command, timeout⟩⟩

theorem IsValid.isTimely {s : Settings} (valid : s.IsValid) : s.IsTimely :=
  fun t limit => not_isBelowZero (valid.timeout t limit)

namespace Field

/-- All fields in order. -/
def all : List Field :=
  [launcher, command, extraArgs, strict, configName, timeout, clearOnFailure, syntaxes, event]

/-- The value that stands for what a field holds. -/
def value (s : Settings) : Field → Value
  | launcher => .text s.launcher
  | command => .texts s.command
  | extraArgs => .texts s.extraArgs
  | strict => .bool s.strict
  | configName => .optional .text s.configName
  | timeout => .optional .float s.timeout
  | clearOnFailure => .bool s.clearOnFailure
  | syntaxes => .texts s.syntaxes
  | event => .text s.event

/-- The faults of a value that may be given for a field. -/
def faults (f : Field) : Option Value → List Fault
  | none => []
  | some v => (f.check v).faults

theorem get?_toMembers (s : Settings) (f : Field) :
    Entries.get? f.name s.toMembers = some (f.value s) := by
  cases f <;> simp [toMembers, Entries.get?, name, value]

theorem words_texts (field : String) (ws : List String) :
    words field (.texts ws) = .passed ws := texts_texts field ws

/-- Valid settings pass every check as they are. -/
theorem check_value {s : Settings} (valid : s.IsValid) (f : Field) :
    f.check (f.value s) = .passed (f.get s) := by
  cases f with
  | command =>
    simp only [check, value, nonemptyWords, words_texts, get]
    split
    · rename_i none
      exact absurd (Checked.passed.inj none) valid.command
    · rfl
  | timeout =>
    cases limit : s.timeout with
    | none => simp only [check, value, limit, get]; rfl
    | some t =>
      have sound : nonNegative (.float t) = .ok t :=
        nonNegative_eq_ok_iff.mpr ⟨rfl, valid.timeout t limit⟩
      simp only [check, value, limit, get, Value.optional, nullable, sound]
      rfl
  | configName =>
    cases given : s.configName with
    | none => simp only [check, value, given, get]; rfl
    | some c => simp only [check, value, given, get]; rfl
  | extraArgs => exact words_texts _ _
  | syntaxes => exact words_texts _ _
  | launcher => rfl
  | strict => rfl
  | clearOnFailure => rfl
  | event => rfl

theorem faults_of_passed {f : Field} {v : Value} {x : f.Carrier} (passed : f.check v = .passed x) :
    f.faults (some v) = [] := by
  rw [faults, passed, Checked.faults]

end Field

theorem nonemptyWords_ne_nil {field : String} {v : Value} {ws : List String}
    (passed : nonemptyWords field v = .passed ws) : ws ≠ [] := by
  rintro rfl
  unfold nonemptyWords at passed
  split at passed
  · cases passed
  · rename_i some
    exact some passed

/-- The members of valid settings are read as these settings. -/
theorem ofMembers_toMembers {s : Settings} (valid : s.IsValid) : ofMembers s.toMembers = .ok s := by
  refine ofMembers_eq_ok_iff.mpr ⟨fun key known => known, fun f => ?_⟩
  rw [Field.get?_toMembers]
  exact Field.check_value valid f

/-- Valid are exactly the settings that can be read. -/
theorem isValid_iff {s : Settings} : s.IsValid ↔ ∃ ms, ofMembers ms = .ok s := by
  constructor
  · exact fun valid => ⟨s.toMembers, ofMembers_toMembers valid⟩
  · rintro ⟨ms, read⟩
    have held := (ofMembers_eq_ok_iff.mp read).2
    constructor
    · have command := held .command
      cases given : Entries.get? (Field.name .command) ms with
      | none =>
        rw [given] at command
        have fallback : s.command = default.command := command
        simp [fallback, default]
      | some v =>
        rw [given] at command
        exact nonemptyWords_ne_nil command
    · intro t limit
      have timeout := held .timeout
      cases given : Entries.get? (Field.name .timeout) ms with
      | none =>
        rw [given] at timeout
        exact absurd (limit.symm.trans timeout) (by simp [Field.get, default])
      | some v =>
        rw [given] at timeout
        have passed := Checked.ofExcept_eq_passed.mp (timeout.trans (congrArg _ limit))
        exact (nonNegative_eq_ok_iff.mp (nullable_eq_some passed)).2

theorem faults_defaulted {α : Type} (ms : Members) (field : String) (fallback : α)
    (rule : Value → Except Problem α) :
    (defaulted ms field fallback rule).faults =
      match Entries.get? field ms with
      | none => []
      | some v => (Checked.ofExcept field v (rule v)).faults := by
  unfold defaulted
  cases Entries.get? field ms <;> rfl

theorem faults_defaultedList (ms : Members) (field : String) (fallback : List String)
    (rule : String → Value → Checked (List String)) :
    (defaultedList ms field fallback rule).faults =
      match Entries.get? field ms with
      | none => []
      | some v => (rule field v).faults := by
  unfold defaultedList
  cases Entries.get? field ms <;> rfl

theorem faults_closed (ms : Members) : (closed ms).faults = strayFaults ms := by
  unfold closed
  split
  · rename_i none
    exact none.symm
  · rfl

/-- The faults of members are those of each field in order and then those of the members that are
none. -/
theorem faults_checkMembers (ms : Members) :
    (checkMembers ms).faults =
      (Field.all.flatMap fun f => f.faults (Entries.get? f.name ms)) ++ strayFaults ms := by
  simp only [checkMembers, Checked.faults_seq, Checked.faults_map, faults_defaulted,
    faults_defaultedList, faults_closed, Field.all, List.flatMap_cons, List.flatMap_nil,
    List.append_nil, List.append_assoc]
  rfl

end CredoAssistant.Settings
