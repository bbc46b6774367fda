import CredoAssistant.Display
import CredoAssistant.Proofs.Tally
import CredoAssistant.Proofs.Validation
import Mathlib.Data.List.Forall2

/-!
Diagnostics listed for people. The rows of the table show all diagnostics by the places they point
at, field by field, and those at one place stay in the order in which they were reported. The tally
behind the table names the severities that occur, the most severe first, and its counts add up to
the number of rows.
-/
namespace CredoAssistant.Diagnostic

open Terminal

/-! ### Rows -/

/-- The column that decides between diagnostics of one line. -/
def placeColumn (d : Diagnostic) : Int := d.column.getD 0

/-- `a` points at a place before that of `b`, or at the same one. -/
def Precedes (a b : Diagnostic) : Prop :=
  a.line < b.line ∨ a.line = b.line ∧ a.placeColumn ≤ b.placeColumn

/-- The diagnostics that point at one place. -/
def pointingAt (line column : Int) (ds : List Diagnostic) : List Diagnostic :=
  ds.filter fun d => d.line = line ∧ d.placeColumn = column

theorem comesBefore_iff {a b : Diagnostic} : comesBefore a b = true ↔ Precedes a b := by
  simp [comesBefore, Precedes, placeColumn]

theorem comesBefore_trans (a b c : Diagnostic) (ab : comesBefore a b = true)
    (bc : comesBefore b c = true) : comesBefore a c = true := by
  rw [comesBefore_iff] at ab bc ⊢
  unfold Precedes at ab bc ⊢
  omega

theorem comesBefore_total (a b : Diagnostic) : (comesBefore a b || comesBefore b a) = true := by
  rw [Bool.or_eq_true, comesBefore_iff, comesBefore_iff]
  unfold Precedes
  omega

/-- Some diagnostics by their places: none is lost or shown twice, and those at one place keep their
order. -/
structure Ordered (ds rows : List Diagnostic) : Prop where
  perm : rows.Perm ds
  sorted : rows.Pairwise Precedes
  stable : ∀ line column, pointingAt line column rows = pointingAt line column ds

theorem pairwise_inOrder (ds : List Diagnostic) : (inOrder ds).Pairwise Precedes := by
  have sorted := List.pairwise_mergeSort comesBefore_trans comesBefore_total ds
  exact sorted.imp comesBefore_iff.mp

/-- Diagnostics at one place are in order whatever their order is, so sorting leaves them alone. -/
theorem pointingAt_inOrder (line column : Int) (ds : List Diagnostic) :
    pointingAt line column (inOrder ds) = pointingAt line column ds := by
  have level : (pointingAt line column ds).Pairwise fun a b => comesBefore a b = true := by
    refine List.pairwise_of_forall_mem_list fun a first b second => ?_
    simp only [pointingAt, List.mem_filter, decide_eq_true_eq] at first second
    rw [comesBefore_iff, Precedes]
    omega
  have kept : (pointingAt line column ds).Sublist (inOrder ds) :=
    List.sublist_mergeSort comesBefore_trans comesBefore_total level List.filter_sublist
  have inside : (pointingAt line column ds).Sublist (pointingAt line column (inOrder ds)) := by
    have again := kept.filter fun d => decide (d.line = line ∧ d.placeColumn = column)
    simp only [pointingAt, List.filter_filter, Bool.and_self] at again
    exact again
  have sizes : (pointingAt line column ds).length = (pointingAt line column (inOrder ds)).length :=
    ((List.mergeSort_perm ds comesBefore).filter _).length_eq.symm
  exact (inside.eq_of_length sizes).symm

theorem ordered_inOrder (ds : List Diagnostic) : Ordered ds (inOrder ds) :=
  ⟨List.mergeSort_perm ds comesBefore, pairwise_inOrder ds,
    fun line column => pointingAt_inOrder line column ds⟩

/-! ### Cells -/

/-- What a terminal can show of a text: all but bell, backspace, vertical tab, form feed and
carriage return. -/
def visible (s : String) : List Char :=
  s.toList.filter (· ∉ ['\x07', '\x08', '\x0b', '\x0c', '\r'])

theorem shown_eq_visible (s : String) : shown s = visible s := by
  refine List.filter_congr fun c _ => ?_
  rw [Bool.eq_iff_iff]
  simp [isDropped, and_assoc]

/-- A cell carries a text in a style: its paragraphs are the visible lines of the text. -/
structure Carries (cell : Cell) (text : String) (style : Style) : Prop where
  text : ['\n'].intercalate (cell.map Paragraph.chars) = visible text
  lines : ∀ p ∈ cell, '\n' ∉ p.chars ∧ p.style = style

theorem splitWhere_ne_nil (p : Char → Bool) (piece cs : List Char) :
    splitWhere p piece cs ≠ [] := by
  induction cs generalizing piece with
  | nil => exact List.cons_ne_nil _ _
  | cons c rest ih =>
    rw [splitWhere]
    split
    · exact List.cons_ne_nil _ _
    · exact ih _

theorem intercalate_splitWhere (mark : Char) (piece cs : List Char) :
    [mark].intercalate (splitWhere (· == mark) piece cs) = piece.reverse ++ cs := by
  induction cs generalizing piece with
  | nil => simp [splitWhere]
  | cons c rest ih =>
    rw [splitWhere]
    by_cases same : c = mark
    · subst same
      obtain ⟨next, others, more⟩ :=
        List.exists_cons_of_ne_nil (splitWhere_ne_nil (· == c) [] rest)
      have behind := ih []
      rw [more] at behind
      simp [more, List.intercalate_cons_cons, behind]
    · simp [same, ih]

theorem notMem_of_splitWhere {mark : Char} {piece cs : List Char} (plain : mark ∉ piece) :
    ∀ part ∈ splitWhere (· == mark) piece cs, mark ∉ part := by
  induction cs generalizing piece with
  | nil => simpa [splitWhere] using plain
  | cons c rest ih =>
    rw [splitWhere]
    by_cases same : c = mark
    · simpa [same, plain] using @ih [] List.not_mem_nil
    · simpa [same] using @ih (c :: piece) (by simp [plain, Ne.symm same])

theorem carries_paragraphs (text : String) (style : Style) :
    Carries (paragraphs text style) text style := by
  constructor
  · have chars : (paragraphs text style).map Paragraph.chars =
        splitWhere (· == '\n') [] (shown text) := by
      rw [paragraphs, List.map_map]
      exact List.map_id _
    rw [chars, intercalate_splitWhere, ← shown_eq_visible]
    rfl
  · intro p inside
    obtain ⟨part, found, rfl⟩ := List.mem_map.mp inside
    exact ⟨notMem_of_splitWhere List.not_mem_nil part found, rfl⟩

/-- A row that shows a diagnostic: its line, its column if it has one, its severity, its code and
its message, in this order. -/
def Shows (d : Diagnostic) (row : List Cell) : Prop :=
  ∃ line column severity code message, row = [line, column, severity, code, message] ∧
    Carries line (toString d.line) .plain ∧
    Carries column (d.column.elim "" toString) .plain ∧
    Carries severity d.severity.name d.severity.style ∧
    Carries code d.code .plain ∧ Carries message d.message .plain

theorem shows_row (d : Diagnostic) : Shows d (row d) := by
  have column : (d.column.map Decimal.text).getD "" = d.column.elim "" toString := by
    cases d.column with
    | none => rfl
    | some c => exact Decimal.text_eq_toString c
  refine ⟨_, _, _, _, _, rfl, ?_, ?_, carries_paragraphs _ _, carries_paragraphs _ _,
    carries_paragraphs _ _⟩
  · rw [Decimal.text_eq_toString]
    exact carries_paragraphs _ _
  · rw [column]
    exact carries_paragraphs _ _

/-! ### Tally -/

/-- The severities that occur, the most severe first. -/
def present (ds : List Diagnostic) : List Severity :=
  Severity.all.filter fun v => decide (∃ d ∈ ds, d.severity = v)

/-- The number of diagnostics of a severity. -/
def withSeverity (v : Severity) (ds : List Diagnostic) : Int := (ds.countP (·.severity = v) : Nat)

theorem mem_present_iff {v : Severity} {ds : List Diagnostic} :
    v ∈ present ds ↔ ∃ d ∈ ds, d.severity = v := by
  have known : v ∈ Severity.all := by cases v <;> decide
  simp [present, known]

theorem withSeverity_pos_iff {v : Severity} {ds : List Diagnostic} :
    0 < withSeverity v ds ↔ v ∈ present ds := by
  simp [withSeverity, mem_present_iff, List.countP_pos_iff]

theorem occurring_eq (ds : List Diagnostic) :
    occurring ds = (present ds).map fun v => (v.name, withSeverity v ds) := by
  rw [occurring, Tally.counts_ofDiagnostics, List.filter_map, present]
  refine congrArg _ (List.filter_congr fun v _ => ?_)
  rw [Bool.eq_iff_iff, decide_eq_true_eq, ← mem_present_iff, ← withSeverity_pos_iff]
  simp only [Function.comp_def, bne_iff_ne, withSeverity]
  omega

/-- Buckets without an item add nothing. -/
theorem sum_filter_ne_zero (counts : Entries String Int) :
    ((counts.filter fun e => e.2 != 0).map Prod.snd).sum = (counts.map Prod.snd).sum := by
  induction counts with
  | nil => rfl
  | cons e rest ih =>
    by_cases none : e.2 = 0
    · simp [none, ih]
    · simp [none, ih]

theorem sum_present (ds : List Diagnostic) :
    ((present ds).map fun v => withSeverity v ds).sum = ds.length := by
  have whole : ((occurring ds).map Prod.snd).sum = ds.length :=
    (sum_filter_ne_zero _).trans (Tally.sum_ofDiagnostics ds)
  rwa [occurring_eq, List.map_map] at whole

/-! ### Listings -/

/-- What is shown of some diagnostics under a title. -/
structure Lists (s : Screen) (title : String) (ds : List Diagnostic) : Prop where
  headings : (table title ds).columns.map Column.header =
    ["Line", "Col", "Severity", "Code", "Message"]
  rows : ∃ order, Ordered ds order ∧ List.Forall₂ Shows order (table title ds).rows
  names : Severity.all.map Severity.name = ["error", "warning", "hint", "info"]
  tally : tallyLine ds = toString ds.length ++ " issue(s): " ++ ", ".intercalate
    ((present ds).map fun v => toString (withSeverity v ds) ++ " " ++ v.name)
  occurs_iff : ∀ v, v ∈ present ds ↔ ∃ d ∈ ds, d.severity = v
  severities : (present ds).Sublist [.error, .warning, .hint, .info]
  positive : ∀ v ∈ present ds, 0 < withSeverity v ds
  sum : ((present ds).map fun v => withSeverity v ds).sum = ds.length
  printed : ds ≠ [] → ∀ text, renderPretty s title ds = .ok text ↔
    ∃ lines shown told, (table title ds).lines s.width = .ok lines ∧ s.write lines = .ok shown ∧
      s.print (tallyLine ds) .plain = .ok told ∧ text = shown ++ told
  nothing : ds = [] → renderPretty s title ds = s.print ("No Credo issues in " ++ title) .green

theorem renderPretty_eq_ok_iff {s : Screen} {title : String} {ds : List Diagnostic} {text : String}
    (some : ds ≠ []) : renderPretty s title ds = .ok text ↔
      ∃ lines shown told, (table title ds).lines s.width = .ok lines ∧ s.write lines = .ok shown ∧
        s.print (tallyLine ds) .plain = .ok told ∧ text = shown ++ told := by
  rw [renderPretty, if_neg (by simpa using some)]
  simp only [bind_eq_ok_iff, Except.ok.injEq]
  constructor
  · rintro ⟨lines, rendered, shown, written, told, tallied, rfl⟩
    exact ⟨lines, shown, told, rendered, written, tallied, rfl⟩
  · rintro ⟨lines, shown, told, rendered, written, tallied, rfl⟩
    exact ⟨lines, rendered, shown, written, told, tallied, rfl⟩

/-- Diagnostics are listed once each and in order, and tallied by what is listed. -/
theorem lists (s : Screen) (title : String) (ds : List Diagnostic) : Lists s title ds := by
  constructor
  case headings => rfl
  case rows =>
    refine ⟨inOrder ds, ordered_inOrder ds, ?_⟩
    rw [table, List.forall₂_map_right_iff]
    exact List.forall₂_same.mpr fun d _ => shows_row d
  case names => rfl
  case tally =>
    simp only [tallyLine, occurring_eq, List.map_map, Decimal.text_eq_toString]
    rfl
  case occurs_iff => exact fun v => mem_present_iff
  case severities => exact List.filter_sublist
  case positive => exact fun v => withSeverity_pos_iff.mpr
  case sum => exact sum_present ds
  case printed => exact fun some text => renderPretty_eq_ok_iff some
  case nothing =>
    rintro rfl
    rfl

end CredoAssistant.Diagnostic
