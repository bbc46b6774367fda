import CredoAssistant.Validation.Rules

/-!
Checked values taken apart: a record passes exactly when each of its parts does, and its faults are
those of its parts, in their order.
-/
namespace CredoAssistant

theorem bind_eq_ok_iff {ε α β : Type} {x : Except ε α} {f : α → Except ε β} {b : β} :
    x >>= f = .ok b ↔ ∃ a, x = .ok a ∧ f a = .ok b := by
  cases x with
  | error e => simp [bind, Except.bind]
  | ok a => simp [bind, Except.bind]

theorem Value.isNull_eq_false_iff {v : Value} : v.isNull = false ↔ v ≠ .null := by
  cases v <;> simp [isNull]

theorem Value.filter_of_ne_null {v : Value} (present : v ≠ .null) :
    (some v).filter (fun v => !v.isNull) = some v := by
  simp [Option.filter, isNull_eq_false_iff.mpr present]

namespace Checked

variable {α β : Type}

theorem map_eq_passed {f : α → β} {a : Checked α} {b : β} :
    f <$> a = .passed b ↔ ∃ x, a = .passed x ∧ f x = b := by
  cases a with
  | passed x => simp [Functor.map, Checked.map]
  | failed faults => simp [Functor.map, Checked.map]

theorem seq_eq_passed {f : Checked (α → β)} {a : Checked α} {b : β} :
    f <*> a = .passed b ↔ ∃ g x, f = .passed g ∧ a = .passed x ∧ g x = b := by
  cases f with
  | passed g => cases a <;> simp [Seq.seq, Checked.app]
  | failed faults => cases a <;> simp [Seq.seq, Checked.app]

theorem toExcept_eq_ok {schema : Schema} {a : Checked α} {x : α} :
    a.toExcept schema = .ok x ↔ a = .passed x := by
  cases a <;> simp [toExcept]

theorem ofExcept_eq_passed {field : String} {v : Value} {e : Except Problem α} {x : α} :
    ofExcept field v e = .passed x ↔ e = .ok x := by
  cases e <;> simp [ofExcept]

/-- The faults of a check; one that passed has none. -/
def faults : Checked α → List Fault
  | passed _ => []
  | failed fs => fs

theorem faults_map (f : α → β) (a : Checked α) : (f <$> a).faults = a.faults := by
  cases a <;> rfl

theorem faults_seq (f : Checked (α → β)) (a : Checked α) :
    (f <*> a).faults = f.faults ++ a.faults := by
  cases f with
  | passed g => cases a <;> rfl
  | failed fs =>
    cases a with
    | passed x => exact (List.append_nil fs).symm
    | failed gs => rfl

theorem toExcept_eq_error {schema : Schema} {a : Checked α} {r : Rejection} :
    a.toExcept schema = .error r ↔ (∀ x, a ≠ .passed x) ∧ r = ⟨schema, a.faults⟩ := by
  cases a with
  | passed x => simp [toExcept]
  | failed fs => simp [toExcept, faults, eq_comm]

end Checked

namespace Validation

/-- What comes of a value that may be given: what the check makes of it, and a default when none is.
-/
def Answers {α : Type} (check : Value → Checked α) (fallback : α) : Option Value → α → Prop
  | none, x => x = fallback
  | some v, x => check v = .passed x

theorem defaulted_iff {α : Type} {ms : Members} {field : String} {fallback x : α}
    {rule : Value → Except Problem α} :
    defaulted ms field fallback rule = .passed x ↔
      Answers (fun v => .ofExcept field v (rule v)) fallback (Entries.get? field ms) x := by
  unfold defaulted
  cases Entries.get? field ms <;> simp [Answers, eq_comm]

theorem nullable_eq_some {α : Type} {rule : Value → Except Problem α} {v : Value} {x : α}
    (passed : nullable rule v = .ok (some x)) : rule v = .ok x := by
  unfold nullable at passed
  split at passed
  · cases passed
  · cases read : rule v with
    | error problem =>
      rw [read] at passed
      cases passed
    | ok y =>
      rw [read] at passed
      cases passed
      rfl

theorem null_of_nullable {α : Type} {rule : Value → Except Problem α} {v : Value}
    (passed : nullable rule v = .ok none) : v = .null := by
  unfold nullable at passed
  split at passed
  · rfl
  · cases read : rule v with
    | error problem =>
      rw [read] at passed
      cases passed
    | ok x =>
      rw [read] at passed
      cases passed

theorem required_iff {α : Type} {ms : Members} {field : String} {x : α}
    {rule : Value → Except Problem α} :
    required ms field rule = .passed x ↔ ∃ v, Entries.get? field ms = some v ∧ rule v = .ok x := by
  unfold required
  cases Entries.get? field ms <;> simp [Checked.ofExcept_eq_passed]

theorem nonNegative_eq_ok_iff {v : Value} {x : Binary64} :
    nonNegative v = .ok x ↔ number v = .ok x ∧ x.isNonNegative = true := by
  rw [nonNegative, bind_eq_ok_iff]
  constructor
  · rintro ⟨y, read, passed⟩
    split at passed
    · rename_i sign
      cases passed
      exact ⟨read, sign⟩
    · cases passed
  · rintro ⟨read, sign⟩
    exact ⟨x, read, if_pos sign⟩

theorem not_isBelowZero {x : Binary64} (sign : x.isNonNegative = true) : x.isBelowZero = false := by
  simp only [Binary64.isNonNegative, Bool.and_eq_true, Bool.not_eq_true'] at sign
  exact sign.2

theorem isNonNegative_of_ne_nan {x : Binary64} (number : x ≠ .nan) (sign : x.isBelowZero = false) :
    x.isNonNegative = true := by
  cases x with
  | nan => exact absurd rfl number
  | infinite s => exact Bool.not_eq_true' _ ▸ sign
  | finite s m e => exact Bool.not_eq_true' _ ▸ sign

/-- A list of texts passes as it is. -/
theorem texts_texts (field : String) (ws : List String) :
    texts field (.texts ws) = .passed ws := by
  have sound (i : Nat) : itemFaults field i (ws.map Value.text) = [] := by
    induction ws generalizing i with
    | nil => rfl
    | cons w ws ih => exact ih (i + 1)
  have kept : itemTexts (ws.map Value.text) = ws := by
    clear sound
    induction ws with
    | nil => rfl
    | cons w ws ih => exact congrArg (w :: ·) ih
  rw [Value.texts, texts, sound 0, kept]

end Validation

end CredoAssistant
