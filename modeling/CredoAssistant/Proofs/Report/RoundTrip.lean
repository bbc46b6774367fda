import CredoAssistant.Proofs.Json.RoundTrip
import CredoAssistant.Report.Reader

/-!
Written reports are read back: the text that lists some issues is a report of exactly those issues,
in their order. Every issue survives both the text and the checks of its ten fields.
-/
namespace CredoAssistant

open Validation

/-- An issue that a report can hold: its line is above zero, and its integers are short enough to be
converted. -/
structure Issue.IsReportable (i : Issue) : Prop where
  line_pos : 0 < i.line
  line : Json.IsConvertible i.line
  priority : Json.IsConvertible i.priority
  column : ∀ n ∈ i.column, Json.IsConvertible n
  columnEnd : ∀ n ∈ i.columnEnd, Json.IsConvertible n

instance (i : Issue) : Decidable i.IsReportable :=
  decidable_of_iff (0 < i.line ∧ Json.IsConvertible i.line ∧ Json.IsConvertible i.priority ∧
      (∀ n ∈ i.column, Json.IsConvertible n) ∧ ∀ n ∈ i.columnEnd, Json.IsConvertible n)
    ⟨fun ⟨pos, line, priority, column, columnEnd⟩ => ⟨pos, line, priority, column, columnEnd⟩,
      fun ⟨pos, line, priority, column, columnEnd⟩ => ⟨pos, line, priority, column, columnEnd⟩⟩

namespace Issue

theorem plain_toValue {i : Issue} (reportable : i.IsReportable) : Json.Plain i.toValue := by
  refine .object (by simp [Entries.keys]) fun m member => ?_
  simp only [List.mem_cons, List.not_mem_nil, or_false] at member
  rcases member with rfl | rfl | rfl | rfl | rfl | rfl | rfl | rfl | rfl | rfl
  · exact .text i.category
  · exact .text i.check
  · exact .optional reportable.column
  · exact .optional reportable.columnEnd
  · exact .text i.filename
  · exact .int reportable.line
  · exact .text i.message
  · exact .int reportable.priority
  · exact .text i.scope
  · exact .text i.trigger

theorem nullable_optional (n : Option Int) : nullable integer (.optional .int n) = .ok n := by
  cases n with
  | none => rfl
  | some i => rfl

/-- The object of an issue passes the checks of all its fields. -/
theorem ofValue_toValue {i : Issue} (positive : 0 < i.line) : ofValue i.toValue = .ok i := by
  have line : Validation.positive (.int i.line) = .ok i.line := if_pos positive
  have checked : ofMembers
      [("category", .text i.category), ("check", .text i.check),
        ("column", .optional .int i.column), ("column_end", .optional .int i.columnEnd),
        ("filename", .text i.filename), ("line_no", .int i.line), ("message", .text i.message),
        ("priority", .int i.priority), ("scope", .text i.scope), ("trigger", .text i.trigger)] =
      .passed i := by
    simp [ofMembers, required, defaulted, Entries.get?, nullable_optional, line, text, textOrEmpty,
      exactInteger, Checked.ofExcept, Functor.map, Checked.map, Seq.seq, Checked.app]
  rw [toValue, ofValue, checked]
  rfl

/-- An issue with marks, control characters, a character beyond the basic plane, a negative integer
and an absent column. -/
def unusual : Issue :=
  ⟨"design", "A\\B", some (-3), none, "", 12, "say \"😀\"\n\x00\x7F", -9, "é", "\u2028"⟩

end Issue

namespace Report

theorem readIssues_map {issues : List Issue} (positive : ∀ i ∈ issues, 0 < i.line) (n : Nat) :
    readIssues n (issues.map Issue.toValue) = .ok issues := by
  induction issues generalizing n with
  | nil => rfl
  | cons i rest ih =>
    have first := Issue.ofValue_toValue (positive i List.mem_cons_self)
    have later := ih (fun j inside => positive j (List.mem_cons_of_mem i inside)) (n + 1)
    rw [List.map_cons, readIssues, first]
    simp only [later]

theorem plain_report {issues : List Issue} (reportable : ∀ i ∈ issues, i.IsReportable) :
    Json.Plain (.object [("issues", .list (issues.map Issue.toValue))]) := by
  refine .object (by simp [Entries.keys]) fun m member => ?_
  obtain rfl := List.mem_singleton.mp member
  refine .list fun v inside => ?_
  obtain ⟨i, listed, rfl⟩ := List.mem_map.mp inside
  exact Issue.plain_toValue (reportable i listed)

/-- A report is an object of one list, whose issues are objects of scalars. -/
theorem height_report (issues : List Issue) :
    Json.height (.object [("issues", .list (issues.map Issue.toValue))]) ≤ 3 := by
  refine Json.height_object_le fun m member => ?_
  obtain rfl := List.mem_singleton.mp member
  refine Json.height_list_le fun v inside => ?_
  obtain ⟨i, _, rfl⟩ := List.mem_map.mp inside
  simp [Issue.toValue, Json.height, Json.heightOfMembers]

/-- The report that lists some issues is read as exactly those issues. -/
theorem read_write (issues : List Issue) (reportable : ∀ i ∈ issues, i.IsReportable)
    (stack : Stack) : read stack (write issues) = .ok issues := by
  have decoded := Json.read_render_of_plain .line (plain_report reportable)
    ((height_report issues).trans stack.enough)
  have listed := readIssues_map (fun i inside => (reportable i inside).line_pos) 0
  rw [read, write, decoded]
  simp only [ofValue, Entries.get?, if_true, listed]

theorem read_write_unusual :
    (∀ i ∈ [Issue.unusual, .unusual], i.IsReportable) ∧
      read .usual (write [.unusual, .unusual]) = .ok [.unusual, .unusual] :=
  ⟨by decide, read_write _ (by decide) .usual⟩

end Report

end CredoAssistant
