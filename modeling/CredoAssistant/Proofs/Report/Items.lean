import CredoAssistant.Proofs.Validation
import CredoAssistant.Report.Reader
import Mathlib.Data.List.Forall2

/-!
What an accepted report holds. It is an object with a list of issues, and each item of the list is
an object of its own whose ten fields pass their checks; the issues stand for the items one by one.
-/
namespace CredoAssistant

open Validation

theorem Validation.exactInteger_eq_ok_iff {v : Value} {n : Int} :
    exactInteger v = .ok n ↔ v = .int n := by
  cases v <;> simp [exactInteger]

example : ∀ v ∈ [Value.bool true, .float (.ofInt 1), .text "1"],
    exactInteger v = .error .notInteger ∧ integer v = .ok 1 := by decide +kernel

theorem Validation.positive_eq_ok_iff {v : Value} {n : Int} :
    positive v = .ok n ↔ integer v = .ok n ∧ 0 < n := by
  rw [positive, bind_eq_ok_iff]
  constructor
  · rintro ⟨m, read, passed⟩
    split at passed
    · rename_i above
      cases passed
      exact ⟨read, above⟩
    · cases passed
  · rintro ⟨read, above⟩
    exact ⟨n, read, if_pos above⟩

namespace Issue

/-- An issue is read when every field of it passes its own check. -/
theorem ofMembers_eq_passed {ms : Members} {i : Issue} :
    ofMembers ms = .passed i ↔
      required ms "category" text = .passed i.category ∧
      required ms "check" text = .passed i.check ∧
      defaulted ms "column" none (nullable integer) = .passed i.column ∧
      defaulted ms "column_end" none (nullable integer) = .passed i.columnEnd ∧
      defaulted ms "filename" "" textOrEmpty = .passed i.filename ∧
      required ms "line_no" positive = .passed i.line ∧
      required ms "message" text = .passed i.message ∧
      required ms "priority" exactInteger = .passed i.priority ∧
      defaulted ms "scope" "" textOrEmpty = .passed i.scope ∧
      defaulted ms "trigger" "" textOrEmpty = .passed i.trigger := by
  simp only [ofMembers, Checked.seq_eq_passed, Checked.map_eq_passed]
  constructor
  · rintro ⟨_, _, ⟨_, _, ⟨_, _, ⟨_, _, ⟨_, _, ⟨_, _, ⟨_, _, ⟨_, _, ⟨_, _, ⟨_, category, rfl⟩, check,
      rfl⟩, column, rfl⟩, columnEnd, rfl⟩, filename, rfl⟩, line, rfl⟩, message, rfl⟩,
      priority, rfl⟩, scope, rfl⟩, trigger, rfl⟩
    exact ⟨category, check, column, columnEnd, filename, line, message, priority, scope, trigger⟩
  · rintro ⟨category, check, column, columnEnd, filename, line, message, priority, scope, trigger⟩
    exact ⟨_, _, ⟨_, _, ⟨_, _, ⟨_, _, ⟨_, _, ⟨_, _, ⟨_, _, ⟨_, _, ⟨_, _, ⟨_, category, rfl⟩, check,
      rfl⟩, column, rfl⟩, columnEnd, rfl⟩, filename, rfl⟩, line, rfl⟩, message, rfl⟩,
      priority, rfl⟩, scope, rfl⟩, trigger, rfl⟩

theorem ofValue_eq_ok_iff {v : Value} {i : Issue} :
    ofValue v = .ok i ↔ ∃ ms, v = .object ms ∧ ofMembers ms = .passed i := by
  cases v <;> simp [ofValue, Checked.toExcept_eq_ok]

/-- A priority is an integer as it stands, and a line is above zero. -/
theorem priority_and_line {v : Value} {i : Issue} (read : ofValue v = .ok i) :
    ∃ ms, v = .object ms ∧ Entries.get? "priority" ms = some (.int i.priority) ∧ 0 < i.line := by
  obtain ⟨ms, rfl, passed⟩ := ofValue_eq_ok_iff.mp read
  obtain ⟨_, _, _, _, _, line, _, priority, _⟩ := ofMembers_eq_passed.mp passed
  obtain ⟨w, found, exact⟩ := required_iff.mp priority
  obtain ⟨_, _, positive⟩ := required_iff.mp line
  rw [exactInteger_eq_ok_iff.mp exact] at found
  exact ⟨ms, rfl, found, (positive_eq_ok_iff.mp positive).2⟩

end Issue

namespace Report

theorem readIssues_eq_ok_iff {n : Nat} {items : List Value} {issues : List Issue} :
    readIssues n items = .ok issues ↔
      List.Forall₂ (fun v i => Issue.ofValue v = .ok i) items issues := by
  induction items generalizing n issues with
  | nil => simp [readIssues, eq_comm]
  | cons v rest ih =>
    rw [List.forall₂_cons_left_iff]
    unfold readIssues
    constructor
    · intro read
      split at read
      · cases read
      · rename_i i first
        split at read
        · cases read
        · rename_i others later
          cases read
          exact ⟨i, others, first, ih.mp later, rfl⟩
    · rintro ⟨i, others, first, later, rfl⟩
      rw [first, ih.mpr later]

/-- The first item that is no issue ends the reading, and is told by its number. -/
theorem readIssues_eq_error_iff {n : Nat} {items : List Value} {flaw : ReportFlaw} :
    readIssues n items = .error flaw ↔
      ∃ before v after r, items = before ++ v :: after ∧
        (∀ w ∈ before, ∃ i, Issue.ofValue w = .ok i) ∧ Issue.ofValue v = .error r ∧
          flaw = .malformedIssue (n + before.length) r := by
  induction items generalizing n with
  | nil => simp [readIssues]
  | cons v rest ih =>
    unfold readIssues
    cases first : Issue.ofValue v with
    | error r =>
      constructor
      · intro failed
        cases failed
        exact ⟨[], v, rest, r, rfl, by simp, first, rfl⟩
      · rintro ⟨before, w, after, s, order, sound, failed, rfl⟩
        cases before with
        | nil =>
          cases order
          cases first.symm.trans failed
          rfl
        | cons u before =>
          cases order
          obtain ⟨i, read⟩ := sound v List.mem_cons_self
          rw [first] at read
          cases read
    | ok i =>
      have later : readIssues (n + 1) rest = .error flaw ↔
          ∃ before w after r, v :: rest = before ++ w :: after ∧
            (∀ u ∈ before, ∃ i, Issue.ofValue u = .ok i) ∧ Issue.ofValue w = .error r ∧
              flaw = .malformedIssue (n + before.length) r := by
        rw [ih]
        constructor
        · rintro ⟨before, w, after, r, rfl, sound, failed, rfl⟩
          refine ⟨v :: before, w, after, r, rfl, ?_, failed, ?_⟩
          · exact List.forall_mem_cons.mpr ⟨⟨i, first⟩, sound⟩
          · rw [List.length_cons, Nat.add_right_comm, Nat.add_assoc]
        · rintro ⟨before, w, after, r, order, sound, failed, rfl⟩
          cases before with
          | nil =>
            cases order
            rw [first] at failed
            cases failed
          | cons u before =>
            cases order
            refine ⟨before, w, after, r, rfl, (List.forall_mem_cons.mp sound).2, failed, ?_⟩
            rw [List.length_cons, Nat.add_right_comm, Nat.add_assoc]
      rw [← later]
      cases readIssues (n + 1) rest <;> simp

theorem ofValue_eq_ok_iff {v : Value} {issues : List Issue} :
    ofValue v = .ok issues ↔ ∃ ms items, v = .object ms ∧
      Entries.get? "issues" ms = some (.list items) ∧
        List.Forall₂ (fun v i => Issue.ofValue v = .ok i) items issues := by
  constructor
  · intro read
    unfold ofValue at read
    split at read
    · split at read
      · rename_i ms _ items found
        exact ⟨ms, items, rfl, found, readIssues_eq_ok_iff.mp read⟩
      · cases read
    · cases read
  · rintro ⟨ms, items, rfl, found, each⟩
    simp only [ofValue, found]
    exact readIssues_eq_ok_iff.mpr each

/-- Why a value is no report: it is no object, its object lists no issues, or an item of the list is
no issue. -/
theorem ofValue_eq_error_iff {v : Value} {flaw : ReportFlaw} :
    ofValue v = .error flaw ↔
      (flaw = .notObject ∧ ∀ ms, v ≠ .object ms) ∨
      ∃ ms, v = .object ms ∧
        ((flaw = .noIssueList ∧ ∀ items, Entries.get? "issues" ms ≠ some (.list items)) ∨
          ∃ items, Entries.get? "issues" ms = some (.list items) ∧
            readIssues 0 items = .error flaw) := by
  cases v with
  | object ms =>
    by_cases listed : ∃ items, Entries.get? "issues" ms = some (.list items)
    · obtain ⟨items, found⟩ := listed
      simp [ofValue, found]
    · have none : ofValue (.object ms) = .error .noIssueList := by
        rw [ofValue]
        split
        · rename_i items found
          exact absurd ⟨items, found⟩ listed
        · rfl
      rw [not_exists] at listed
      simp [none, listed, eq_comm]
  | _ => simp [ofValue, eq_comm]

/-- A text is a report of some issues when it is read as an object that lists them. -/
theorem read_eq_ok_iff {stack : Stack} {output : String} {issues : List Issue} :
    read stack output = .ok issues ↔ ∃ ms items, Json.read stack output.toList = .ok (.object ms) ∧
      Entries.get? "issues" ms = some (.list items) ∧
        List.Forall₂ (fun v i => Issue.ofValue v = .ok i) items issues := by
  unfold read
  cases Json.read stack output.toList with
  | error failure => cases failure <;> simp
  | ok v =>
    have listed : ofValue v = .ok issues ↔ _ := ofValue_eq_ok_iff
    simp only [Except.ok.injEq]
    cases found : ofValue v with
    | error flaw => simpa [found] using listed
    | ok others => simpa [found] using listed

end Report

end CredoAssistant
