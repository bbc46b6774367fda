import CredoAssistant.Diagnostic.Mapping
import Mathlib.Data.List.Forall2

/-!
Mapping issues to diagnostics: the list maps as a whole, one diagnostic for each issue in order, and
it does so exactly when every priority has a severity. Otherwise the first priority that has none is
what the mapping fails with.
-/
namespace CredoAssistant

theorem Severity.isSome_ofPriority?_iff {p : Int} :
    (ofPriority? p).isSome = true ↔ 1 ≤ p ∧ p ≤ 4 := by
  unfold ofPriority?
  constructor
  · intro known
    grind
  · intro within
    grind

namespace Diagnostic

open Validation

theorem exists_ofIssue_iff {i : Issue} :
    (∃ d, ofIssue i = .ok d) ↔ (Severity.ofPriority? i.priority).isSome = true := by
  cases known : Severity.ofPriority? i.priority with
  | none => simp [ofIssue, Severity.ofValue, known]
  | some severity => simp [ofIssue, Severity.ofValue, known]

theorem severity_of_ofIssue {i : Issue} {d : Diagnostic} (mapped : ofIssue i = .ok d) :
    i.priority = d.severity.priority := by
  cases known : Severity.ofPriority? i.priority with
  | none => simp [ofIssue, Severity.ofValue, known] at mapped
  | some severity =>
    simp only [ofIssue, Severity.ofValue, known, Except.ok.injEq] at mapped
    subst mapped
    exact Severity.ofPriority?_eq_some_iff.mp known

theorem ofIssues_eq_ok_iff {issues : List Issue} {ds : List Diagnostic} :
    ofIssues issues = .ok ds ↔ List.Forall₂ (fun i d => ofIssue i = .ok d) issues ds := by
  induction issues generalizing ds with
  | nil => simp [ofIssues, eq_comm]
  | cons i rest ih =>
    rw [List.forall₂_cons_left_iff]
    unfold ofIssues
    constructor
    · intro mapped
      split at mapped
      · cases mapped
      · rename_i d first
        split at mapped
        · cases mapped
        · rename_i es others
          cases mapped
          exact ⟨d, es, first, ih.mp others, rfl⟩
    · rintro ⟨d, es, first, others, rfl⟩
      rw [first, ih.mpr others]

theorem exists_ofIssues_iff {issues : List Issue} :
    (∃ ds, ofIssues issues = .ok ds) ↔
      ∀ i ∈ issues, (Severity.ofPriority? i.priority).isSome = true := by
  induction issues with
  | nil => simp [ofIssues]
  | cons i rest ih =>
    rw [List.forall_mem_cons, ← exists_ofIssue_iff, ← ih]
    constructor
    · rintro ⟨ds, mapped⟩
      obtain ⟨d, es, first, others, rfl⟩ :=
        List.forall₂_cons_left_iff.mp (ofIssues_eq_ok_iff.mp mapped)
      exact ⟨⟨d, first⟩, es, ofIssues_eq_ok_iff.mpr others⟩
    · rintro ⟨⟨d, first⟩, es, others⟩
      exact ⟨d :: es, ofIssues_eq_ok_iff.mpr (.cons first (ofIssues_eq_ok_iff.mp others))⟩

/-- A diagnostic says what its issue says: the severity of the priority, one line, the span from the
column to the end that was reported, if that is not zero, and the file if it has a name. -/
structure Describes (d : Diagnostic) (i : Issue) : Prop where
  severity : (i.priority, d.severity) ∈ [(1, Severity.error), (2, .warning), (3, .hint), (4, .info)]
  line : d.line = i.line ∧ d.endLine = i.line
  column : d.column = i.column
  endColumn : (∃ n, i.columnEnd = some n ∧ n ≠ 0 ∧ d.endColumn = some n) ∨
    (∀ n ∈ i.columnEnd, n = 0) ∧ d.endColumn = i.column
  file : (d.file = none ↔ i.filename = "") ∧ ∀ name ∈ d.file, name = i.filename
  texts : d.code = i.category ∧ d.message = i.message ∧ d.source = "Credo" ∧ d.check = some i.check

theorem ofIssue_eq_error_iff {i : Issue} {e : MappingError} :
    ofIssue i = .error e ↔
      (Severity.ofPriority? i.priority).isSome = false ∧ e = ⟨.int i.priority, i.check⟩ := by
  cases known : Severity.ofPriority? i.priority with
  | none => simp [ofIssue, Severity.ofValue, known, eq_comm]
  | some severity => simp [ofIssue, Severity.ofValue, known]

theorem describes_of_ofIssue {i : Issue} {d : Diagnostic} (mapped : ofIssue i = .ok d) :
    d.Describes i := by
  have priority := severity_of_ofIssue mapped
  cases known : Severity.ofPriority? i.priority with
  | none => simp [ofIssue, Severity.ofValue, known] at mapped
  | some severity =>
    simp only [ofIssue, Severity.ofValue, known, Except.ok.injEq] at mapped
    subst mapped
    refine ⟨?_, ⟨rfl, rfl⟩, rfl, ?_, ?_, rfl, rfl, rfl, rfl⟩
    · rw [priority]
      change (severity.priority, severity) ∈ _
      cases severity <;> decide
    · cases given : i.columnEnd with
      | none => exact .inr ⟨by simp, by simp [endColumnOf, given]⟩
      | some n =>
        by_cases zero : n = 0
        · exact .inr ⟨by simp [zero], by simp [endColumnOf, given, zero]⟩
        · exact .inl ⟨n, rfl, zero, by simp [endColumnOf, given, zero]⟩
    · by_cases unnamed : i.filename = ""
      · simp [unnamed]
      · simp [unnamed]

/-- A severity occurs among the diagnostics when its priority does among the issues. -/
theorem exists_severity_iff {issues : List Issue} {ds : List Diagnostic}
    (mapped : ofIssues issues = .ok ds) (s : Severity) :
    (∃ d ∈ ds, d.severity = s) ↔ ∃ i ∈ issues, i.priority = s.priority := by
  have each := ofIssues_eq_ok_iff.mp mapped
  clear mapped
  induction each with
  | nil => simp
  | @cons i d issues ds first _ ih =>
    have priority := severity_of_ofIssue first
    have here : d.severity = s ↔ i.priority = s.priority := by
      rw [priority]
      cases d.severity <;> cases s <;> decide
    simp only [List.exists_mem_cons_iff, here, ih]

/-- The first issue whose priority has no severity ends the mapping. -/
theorem ofIssues_eq_error_iff {issues : List Issue} {e : MappingError} :
    ofIssues issues = .error e ↔ ∃ before i after, issues = before ++ i :: after ∧
      (∀ j ∈ before, (Severity.ofPriority? j.priority).isSome = true) ∧ ofIssue i = .error e := by
  induction issues with
  | nil => simp [ofIssues]
  | cons i rest ih =>
    unfold ofIssues
    cases first : ofIssue i with
    | error f =>
      constructor
      · intro failed
        cases failed
        exact ⟨[], i, rest, rfl, by simp, first⟩
      · rintro ⟨before, j, after, order, known, failed⟩
        cases before with
        | nil =>
          cases order
          cases first.symm.trans failed
          rfl
        | cons k before =>
          cases order
          have mapped := known i List.mem_cons_self
          rw [(ofIssue_eq_error_iff.mp first).1] at mapped
          cases mapped
    | ok d =>
      have known := exists_ofIssue_iff.mp ⟨d, first⟩
      have later : (∃ before j after, i :: rest = before ++ j :: after ∧
          (∀ k ∈ before, (Severity.ofPriority? k.priority).isSome = true) ∧ ofIssue j = .error e) ↔
            ofIssues rest = .error e := by
        rw [ih]
        constructor
        · rintro ⟨before, j, after, order, above, failed⟩
          cases before with
          | nil =>
            cases order
            rw [first] at failed
            cases failed
          | cons k before =>
            cases order
            exact ⟨before, j, after, rfl, fun k inside => above k (List.mem_cons_of_mem _ inside),
              failed⟩
        · rintro ⟨before, j, after, rfl, above, failed⟩
          exact ⟨i :: before, j, after, rfl, List.forall_mem_cons.mpr ⟨known, above⟩, failed⟩
      rw [later]
      cases ofIssues rest <;> simp

/-- The fields of a diagnostic pass the checks of a diagnostic, which are met on one line only. -/
theorem ofValue_toValue {d : Diagnostic} (oneLine : d.IsOneLine) : ofValue d.toValue = .ok d := by
  have columns (n : Option Int) : nullable integer (.optional .int n) = .ok n := by cases n <;> rfl
  have names (s : Option String) : nullable text (.optional .text s) = .ok s := by cases s <;> rfl
  have severity : severityOf (.text d.severity.name) = .ok d.severity := by
    cases d.severity <;> rfl
  have checked : ofMembers
      [("code", .text d.code), ("message", .text d.message), ("severity", .text d.severity.name),
        ("source", .text d.source), ("line", .int d.line), ("column", .optional .int d.column),
        ("end_line", .int d.endLine), ("end_column", .optional .int d.endColumn),
        ("check", .optional .text d.check), ("file", .optional .text d.file)] = .passed d := by
    simp [ofMembers, required, defaulted, Entries.get?, columns, names, severity, text, integer,
      Checked.ofExcept, Functor.map, Checked.map, Seq.seq, Checked.app]
  simp only [toValue, ofValue, checked, Checked.toExcept, if_pos oneLine]

end Diagnostic

end CredoAssistant
