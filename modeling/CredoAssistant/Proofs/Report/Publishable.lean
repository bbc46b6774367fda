import CredoAssistant.Proofs.Diagnostic.Mapping
import CredoAssistant.Proofs.Diagnostic.Payload
import CredoAssistant.Proofs.Json.Converted
import CredoAssistant.Proofs.Report.Items

/-!
Reports lead to diagnostics that can be published. The integers of a report are short, and so are
those that its texts and numbers stand for; nothing on the way to a diagnostic makes them longer.
-/
namespace CredoAssistant

open Json (Converted IsConvertible)

namespace Validation

theorem isConvertible_of_plainInteger {cs : List Char} {n : Int}
    (read : plainInteger cs = .ok n) : IsConvertible n := by
  unfold plainInteger at read
  dsimp only at read
  generalize (if cs.head? == some '-' then cs.tail else cs) = body at read
  have digits : ∀ c ∈ body.takeWhile Char.isDigit, c.isDigit = true :=
    fun c inside => List.all_eq_true.mp List.all_takeWhile c inside
  have signed (few : (body.takeWhile Char.isDigit).length ≤ Json.maxDigits) :
      IsConvertible (if cs.head? == some '-' then
          -((Decimal.value (body.takeWhile Char.isDigit) : Nat) : Int)
        else (Decimal.value (body.takeWhile Char.isDigit) : Nat)) := by
    have short := Json.isConvertible_value digits few
    split
    · exact Json.isConvertible_neg short
    · exact short
  split at read
  · cases read
  · rename_i first more leading
    split at read
    · split at read
      · rename_i alone
        cases read
        have ended : more = [] := List.isEmpty_iff.mp (Bool.and_eq_true_iff.mp alone).1
        exact signed (by simp [leading, ended, Json.maxDigits])
      · cases read
    · split at read
      · cases read
      · rename_i few
        split at read
        · cases read
          exact signed (Nat.le_of_not_lt few)
        · cases read

theorem isConvertible_of_text {s : String} {n : Int} (read : integerOfText s = .ok n) :
    IsConvertible n := by
  unfold integerOfText at read
  split at read
  · split at read
    · rename_i tidy
      cases read
      obtain ⟨cs, _, plain⟩ := Option.map_eq_some_iff.mp tidy
      exact isConvertible_of_plainInteger plain
    · cases read
  · exact isConvertible_of_plainInteger read

theorem isConvertible_of_number {x : Binary64} {n : Int} (read : integerOfNumber x = .ok n) :
    IsConvertible n := by
  unfold integerOfNumber at read
  split at read
  · cases read
  · cases read
  · split at read
    · cases read
    · split at read
      · rename_i small
        cases read
        exact Json.isConvertible_of_natAbs_lt small
      · cases read

/-- What stands for an integer stands for a short one. -/
theorem isConvertible_of_integer {v : Value} {n : Int} (converted : Converted v)
    (read : integer v = .ok n) : IsConvertible n := by
  cases converted with
  | int short =>
    cases read
    exact short
  | bool b =>
    cases read
    cases b <;> decide
  | float x => exact isConvertible_of_number read
  | text s => exact isConvertible_of_text read
  | null => cases read
  | list items => cases read
  | object members => cases read

theorem isConvertible_of_positive {ms : Members} {field : String} {n : Int}
    (members : ∀ m ∈ ms, Converted m.2) (passed : required ms field positive = .passed n) :
    IsConvertible n := by
  obtain ⟨v, found, positive⟩ := required_iff.mp passed
  exact isConvertible_of_integer (members _ (Entries.mem_of_get? found))
    (positive_eq_ok_iff.mp positive).1

theorem isConvertible_of_nullable {ms : Members} {field : String} {x : Option Int}
    (members : ∀ m ∈ ms, Converted m.2)
    (passed : defaulted ms field none (nullable integer) = .passed x) :
    ∀ n ∈ x, IsConvertible n := by
  rintro n ⟨⟩
  have answer := defaulted_iff.mp passed
  cases found : Entries.get? field ms with
  | none =>
    rw [found] at answer
    cases answer
  | some v =>
    rw [found] at answer
    have given := nullable_eq_some (Checked.ofExcept_eq_passed.mp answer)
    exact isConvertible_of_integer (members _ (Entries.mem_of_get? found)) given

end Validation

/-- The integers of an issue that has a severity are short. -/
structure Issue.IsConverted (i : Issue) : Prop where
  line : IsConvertible i.line
  column : ∀ n ∈ i.column, IsConvertible n
  columnEnd : ∀ n ∈ i.columnEnd, IsConvertible n

theorem Issue.isConverted_of_ofValue {v : Value} {i : Issue} (converted : Converted v)
    (read : ofValue v = .ok i) : i.IsConverted := by
  obtain ⟨ms, rfl, passed⟩ := ofValue_eq_ok_iff.mp read
  obtain ⟨_, _, column, columnEnd, _, line, _⟩ := ofMembers_eq_passed.mp passed
  cases converted with
  | object members =>
    exact ⟨Validation.isConvertible_of_positive members line,
      Validation.isConvertible_of_nullable members column,
      Validation.isConvertible_of_nullable members columnEnd⟩

theorem Report.isConverted_of_read {stack : Stack} {output : String} {issues : List Issue}
    (accepted : read stack output = .ok issues) : ∀ i ∈ issues, i.IsConverted := by
  obtain ⟨ms, items, decoded, found, each⟩ := read_eq_ok_iff.mp accepted
  have converted : ∀ v ∈ items, Converted v := by
    cases Json.converted_of_read decoded with
    | object members =>
      cases members _ (Entries.mem_of_get? found) with
      | list converted => exact converted
  clear accepted found
  induction each with
  | nil => exact fun _ inside => absurd inside List.not_mem_nil
  | cons first _ ih =>
    obtain ⟨here, later⟩ := List.forall_mem_cons.mp converted
    exact List.forall_mem_cons.mpr ⟨Issue.isConverted_of_ofValue here first, ih later⟩

theorem Diagnostic.isPublishable_of_ofIssue {i : Issue} {d : Diagnostic} (converted : i.IsConverted)
    (mapped : ofIssue i = .ok d) : d.IsPublishable := by
  obtain ⟨_, ⟨line, endLine⟩, column, endColumn, _⟩ := describes_of_ofIssue mapped
  refine ⟨line.trans endLine.symm, line ▸ converted.line, column ▸ converted.column, ?_⟩
  rcases endColumn with ⟨n, reported, _, kept⟩ | ⟨_, start⟩
  · rw [kept, ← reported]
    exact converted.columnEnd
  · rw [start]
    exact converted.column

/-- The diagnostics of a report can be published. -/
theorem Report.isPublishable_of_read {stack : Stack} {output : String} {issues : List Issue}
    {ds : List Diagnostic} (accepted : read stack output = .ok issues)
    (mapped : Diagnostic.ofIssues issues = .ok ds) : ∀ d ∈ ds, d.IsPublishable := by
  have converted := isConverted_of_read accepted
  have each := Diagnostic.ofIssues_eq_ok_iff.mp mapped
  clear accepted mapped
  induction each with
  | nil => exact fun _ inside => absurd inside List.not_mem_nil
  | cons first _ ih =>
    obtain ⟨here, later⟩ := List.forall_mem_cons.mp converted
    exact List.forall_mem_cons.mpr ⟨Diagnostic.isPublishable_of_ofIssue here first, ih later⟩

end CredoAssistant
