import CredoAssistant.Display
import CredoAssistant.Proofs.Json.Ascii

/-!
Payloads that leave as JSON text. Other programs read the text back as the payloads that went into
it, in their order, and need no more than ASCII for it, whatever the texts of the diagnostics hold.
-/
namespace CredoAssistant.Diagnostic

/-- A diagnostic whose payload can be read back: its span is one line, and its integers are short
enough to be converted. -/
structure IsPublishable (d : Diagnostic) : Prop where
  oneLine : d.IsOneLine
  line : Json.IsConvertible d.line
  column : ∀ n ∈ d.column, Json.IsConvertible n
  endColumn : ∀ n ∈ d.endColumn, Json.IsConvertible n

instance (d : Diagnostic) : Decidable d.IsPublishable :=
  decidable_of_iff (d.IsOneLine ∧ Json.IsConvertible d.line ∧
      (∀ n ∈ d.column, Json.IsConvertible n) ∧ ∀ n ∈ d.endColumn, Json.IsConvertible n)
    ⟨fun ⟨oneLine, line, column, endColumn⟩ => ⟨oneLine, line, column, endColumn⟩,
      fun ⟨oneLine, line, column, endColumn⟩ => ⟨oneLine, line, column, endColumn⟩⟩

/-- A column in a payload; one that is missing is null. -/
def columnValue : Option Int → Value
  | none => .null
  | some n => .int n

/-- Members that tell everything hosts show of a diagnostic, and nothing else. -/
structure Tells (d : Diagnostic) (ms : Members) : Prop where
  keys : Entries.keys ms =
    ["code", "message", "severity", "source", "line", "column", "endLine", "endColumn"]
  code : Entries.get? "code" ms = some (.text d.code)
  message : Entries.get? "message" ms = some (.text d.message)
  severity : Entries.get? "severity" ms = some (.text d.severity.name)
  source : Entries.get? "source" ms = some (.text d.source)
  line : Entries.get? "line" ms = some (.int d.line)
  column : Entries.get? "column" ms = some (columnValue d.column)
  endLine : Entries.get? "endLine" ms = Entries.get? "line" ms
  endColumn : Entries.get? "endColumn" ms = some (columnValue d.endColumn)

theorem tells_toPayload {d : Diagnostic} (oneLine : d.IsOneLine) :
    ∃ ms, d.toPayload = .object ms ∧ d.Tells ms := by
  have column (n : Option Int) : Value.optional .int n = columnValue n := by cases n <;> rfl
  refine ⟨_, rfl, rfl, rfl, rfl, rfl, rfl, rfl, ?_, ?_, ?_⟩
  · simp [Entries.get?, column]
  · simp [Entries.get?, show d.endLine = d.line from oneLine.symm]
  · simp [Entries.get?, column]

theorem plain_toPayload {d : Diagnostic} (publishable : d.IsPublishable) :
    Json.Plain d.toPayload := by
  refine .object (by simp [Entries.keys]) fun m member => ?_
  simp only [List.mem_cons, List.not_mem_nil, or_false] at member
  rcases member with rfl | rfl | rfl | rfl | rfl | rfl | rfl | rfl
  · exact .text d.code
  · exact .text d.message
  · exact .text d.severity.name
  · exact .text d.source
  · exact .int publishable.line
  · exact .optional publishable.column
  · have last : d.endLine = d.line := publishable.oneLine.symm
    exact .int (last ▸ publishable.line)
  · exact .optional publishable.endColumn

theorem plain_payloads {ds : List Diagnostic} (publishable : ∀ d ∈ ds, d.IsPublishable) :
    Json.Plain (.list (ds.map toPayload)) := by
  refine .list fun v inside => ?_
  obtain ⟨d, listed, rfl⟩ := List.mem_map.mp inside
  exact plain_toPayload (publishable d listed)

/-- Payloads are objects of scalars in a list. -/
theorem height_payloads (ds : List Diagnostic) : Json.height (.list (ds.map toPayload)) ≤ 2 := by
  refine Json.height_list_le fun v inside => ?_
  obtain ⟨d, _, rfl⟩ := List.mem_map.mp inside
  simp [toPayload, Json.height, Json.heightOfMembers]

theorem room_payloads (ds : List Diagnostic) (stack : Stack) :
    Json.height (.list (ds.map toPayload)) ≤ stack.levels :=
  (height_payloads ds).trans ((Nat.le_succ 2).trans stack.enough)

theorem toList_renderJson (ds : List Diagnostic) :
    (renderJson ds).toList = Json.write .indented 0 (.list (ds.map toPayload)) := by
  rw [renderJson, Json.render, String.toList_ofList]

/-- The text of some diagnostics is read as their payloads and is ASCII. -/
theorem read_renderJson {ds : List Diagnostic} (publishable : ∀ d ∈ ds, d.IsPublishable)
    (stack : Stack) :
    Json.read stack (renderJson ds).toList = .ok (.list (ds.map toPayload)) ∧
      (∀ d ∈ ds, ∃ ms, d.toPayload = .object ms ∧ d.Tells ms) ∧
      ∀ c ∈ (renderJson ds).toList, c.toNat < 0x80 := by
  have plain := plain_payloads publishable
  refine ⟨?_, fun d listed => tells_toPayload (publishable d listed).oneLine, ?_⟩
  · rw [toList_renderJson]
    exact Json.read_write_of_plain .indented plain (room_payloads ds stack)
  · rw [toList_renderJson]
    exact Json.ascii_write plain 0

/-- The text is read as well when a line ends behind it. -/
theorem read_renderJson_line {ds : List Diagnostic} (publishable : ∀ d ∈ ds, d.IsPublishable)
    (stack : Stack) : Json.read stack (renderJson ds ++ "\n").toList =
      .ok (.list (ds.map toPayload)) := by
  have space : ∀ c ∈ "\n".toList, Json.isSpace c = true := List.all_eq_true.mp rfl
  rw [String.toList_append, toList_renderJson]
  exact Json.read_write_append .indented (plain_payloads publishable) (room_payloads ds stack) space

/-- A diagnostic with marks, control characters, a character beyond the basic plane, a negative
integer and a missing column. -/
def unusual : Diagnostic :=
  ⟨"A\\B\x7F", "say \"😀\"\n\x00\u2028", .warning, "é/", -12, none, -12, some 40, none, none⟩

theorem read_renderJson_unusual :
    (∀ d ∈ [unusual, unusual], d.IsPublishable) ∧
      Json.read .usual (renderJson [unusual, unusual]).toList =
        .ok (.list ([unusual, unusual].map toPayload)) :=
  ⟨by decide, (read_renderJson (by decide) .usual).1⟩

end CredoAssistant.Diagnostic
