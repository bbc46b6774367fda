import CredoAssistant.Proofs.Diagnostic.Mapping
import CredoAssistant.Proofs.Report.Items

/-!
From the text of a report to diagnostics. Priorities come through as the integers that the report
writes, and the issues of a report map all together or not at all.
-/
namespace CredoAssistant.Report

/-- The priority of an issue is one that has a severity. -/
def InRange (i : Issue) : Prop := 1 ≤ i.priority ∧ i.priority ≤ 4

instance (i : Issue) : Decidable (InRange i) :=
  inferInstanceAs (Decidable (1 ≤ i.priority ∧ i.priority ≤ 4))

theorem isSome_severity_iff {i : Issue} :
    (Severity.ofPriority? i.priority).isSome = true ↔ InRange i :=
  Severity.isSome_ofPriority?_iff

/-- An item of a report that is read as an issue: an object whose priority is an integer itself. -/
def Lists (v : Value) (i : Issue) : Prop :=
  Issue.ofValue v = .ok i ∧
    ∃ ms, v = .object ms ∧ Entries.get? "priority" ms = some (.int i.priority)

/-- A diagnostic that an issue maps to. It keeps its own rules, so it can be built. -/
structure Shows (i : Issue) (d : Diagnostic) : Prop where
  describes : d.Describes i
  line : 1 ≤ d.line
  sound : Diagnostic.ofValue d.toValue = .ok d

/-- What the issues of a report are, and what they map to. -/
structure Maps (stack : Stack) (output : String) (issues : List Issue) : Prop where
  literal : ∃ ms items, Json.read stack output.toList = .ok (.object ms) ∧
    Entries.get? "issues" ms = some (.list items) ∧ List.Forall₂ Lists items issues
  mapped_iff : (∃ ds, Diagnostic.ofIssues issues = .ok ds) ↔ ∀ i ∈ issues, InRange i
  mapped : ∀ ds, Diagnostic.ofIssues issues = .ok ds → List.Forall₂ Shows issues ds
  failed_iff : ∀ e, Diagnostic.ofIssues issues = .error e ↔
    ∃ before i after, issues = before ++ i :: after ∧ (∀ j ∈ before, InRange j) ∧
      ¬ InRange i ∧ e = ⟨.int i.priority, i.check⟩

theorem lists_of_ofValue {v : Value} {i : Issue} (read : Issue.ofValue v = .ok i) : Lists v i :=
  have ⟨ms, shape, priority, _⟩ := Issue.priority_and_line read
  ⟨read, ms, shape, priority⟩

/-- Every issue that was read stands on a line above zero. -/
theorem line_of_forall₂ {items : List Value} {issues : List Issue}
    (each : List.Forall₂ (fun v i => Issue.ofValue v = .ok i) items issues) :
    ∀ i ∈ issues, 0 < i.line := by
  induction each with
  | nil => simp
  | cons first _ ih =>
    obtain ⟨_, _, _, line⟩ := Issue.priority_and_line first
    exact List.forall_mem_cons.mpr ⟨line, ih⟩

theorem shows_of_ofIssue {i : Issue} {d : Diagnostic} (line : 0 < i.line)
    (mapped : Diagnostic.ofIssue i = .ok d) : Shows i d := by
  have describes := Diagnostic.describes_of_ofIssue mapped
  have oneLine : d.IsOneLine := describes.line.1.trans describes.line.2.symm
  exact ⟨describes, describes.line.1 ▸ line, Diagnostic.ofValue_toValue oneLine⟩

theorem shows_of_ofIssues {issues : List Issue} {ds : List Diagnostic}
    (lines : ∀ i ∈ issues, 0 < i.line) (mapped : Diagnostic.ofIssues issues = .ok ds) :
    List.Forall₂ Shows issues ds := by
  have each := Diagnostic.ofIssues_eq_ok_iff.mp mapped
  induction each with
  | nil => exact .nil
  | cons first others ih =>
    obtain ⟨line, later⟩ := List.forall_mem_cons.mp lines
    exact .cons (shows_of_ofIssue line first)
      (ih later (Diagnostic.ofIssues_eq_ok_iff.mpr others))

theorem ofIssues_eq_error_iff {issues : List Issue} {e : MappingError} :
    Diagnostic.ofIssues issues = .error e ↔
      ∃ before i after, issues = before ++ i :: after ∧ (∀ j ∈ before, InRange j) ∧
        ¬ InRange i ∧ e = ⟨.int i.priority, i.check⟩ := by
  simp only [Diagnostic.ofIssues_eq_error_iff, Diagnostic.ofIssue_eq_error_iff,
    isSome_severity_iff, ← Bool.not_eq_true]

/-- Priorities are those that a report writes, and its issues map to diagnostics all or none. -/
theorem maps_of_read {stack : Stack} {output : String} {issues : List Issue}
    (accepted : read stack output = .ok issues) : Maps stack output issues := by
  obtain ⟨ms, items, decoded, found, each⟩ := read_eq_ok_iff.mp accepted
  exact
    { literal := ⟨ms, items, decoded, found, each.imp fun _ _ => lists_of_ofValue⟩
      mapped_iff := by simp only [Diagnostic.exists_ofIssues_iff, isSome_severity_iff]
      mapped := fun _ => shows_of_ofIssues (line_of_forall₂ each)
      failed_iff := fun _ => ofIssues_eq_error_iff }

/-- A report that gives a line as a text, columns as scalars, and a priority out of range. -/
def outOfRange : String :=
  Json.render .line
    (.object
      [("issues", .list
        [.object
          [("category", .text "design"), ("check", .text "A"), ("message", .text "m"),
            ("line_no", .text "7"), ("priority", .int 4), ("column", .bool true),
            ("column_end", .float (.zero false)), ("filename", .text "a.ex")],
          .object
            [("category", .text "design"), ("check", .text "B"), ("message", .text "m"),
              ("line_no", .int 1), ("priority", .int 0), ("column", .null)]])])

theorem maps_outOfRange :
    read .usual outOfRange =
        .ok [⟨"design", "A", some 1, some 0, "a.ex", 7, "m", 4, "", ""⟩,
          ⟨"design", "B", none, none, "", 1, "m", 0, "", ""⟩] ∧
      Maps .usual outOfRange
        [⟨"design", "A", some 1, some 0, "a.ex", 7, "m", 4, "", ""⟩,
          ⟨"design", "B", none, none, "", 1, "m", 0, "", ""⟩] :=
  have accepted : read .usual outOfRange =
      .ok [⟨"design", "A", some 1, some 0, "a.ex", 7, "m", 4, "", ""⟩,
        ⟨"design", "B", none, none, "", 1, "m", 0, "", ""⟩] := by
    rw [read, outOfRange, Json.render, String.toList_ofList]
    decide +kernel
  ⟨accepted, maps_of_read accepted⟩

end CredoAssistant.Report
