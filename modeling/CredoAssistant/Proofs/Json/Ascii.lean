import CredoAssistant.Proofs.Json.RoundTrip

/-!
Written values are ASCII. Whatever stands in a text goes into it as it is when it can be printed,
and as an escape otherwise; all the rest are marks, digits, words and white space.
-/
namespace CredoAssistant.Json

variable {cs ds : List Char} {layout : Layout}

def Ascii (cs : List Char) : Prop := ∀ c ∈ cs, c.toNat < 0x80

@[simp] theorem ascii_nil : Ascii [] := by simp [Ascii]

@[simp] theorem ascii_cons {c : Char} : Ascii (c :: cs) ↔ c.toNat < 0x80 ∧ Ascii cs := by
  simp [Ascii]

@[simp] theorem ascii_append : Ascii (cs ++ ds) ↔ Ascii cs ∧ Ascii ds := by
  simp only [Ascii, List.mem_append, or_imp, forall_and]

theorem ascii_flatMap {f : Char → List Char} (each : ∀ c ∈ cs, Ascii (f c)) :
    Ascii (cs.flatMap f) := by
  intro c inside
  obtain ⟨d, listed, inside⟩ := List.mem_flatMap.mp inside
  exact each d listed c inside

theorem toNat_digitChar_lt : ∀ n < 16, n.digitChar.toNat < 0x80 := by decide

theorem ascii_unitEscape {n : Nat} (unit : n < 0x10000) : Ascii (unitEscape n) := by
  have digit (m : Nat) (small : m < 16) : m.digitChar.toNat < 0x80 := toNat_digitChar_lt m small
  rw [unitEscape_eq unit]
  simp only [ascii_cons, ascii_nil, and_true]
  exact ⟨by decide, by decide, digit _ (by omega), digit _ (by omega), digit _ (by omega),
    digit _ (by omega)⟩

/-- What is not printed as it is has an escape of a letter, of a unit or of two. -/
theorem ascii_escapeChar (c : Char) : Ascii (escapeChar c) := by
  unfold escapeChar
  split
  · rename_i mark
    rcases mark with rfl | rfl <;> simp
  iterate 5
    split
    · simp
  dsimp only
  split
  · rename_i printable
    simp only [ascii_cons, ascii_nil, and_true]
    omega
  split
  · rename_i basic
    exact ascii_unitEscape basic
  · have last := toNat_lt c
    exact ascii_append.mpr ⟨ascii_unitEscape (by omega), ascii_unitEscape (by omega)⟩

theorem ascii_writeText (s : String) : Ascii (writeText s) := by
  have inside : Ascii (s.toList.flatMap escapeChar) := ascii_flatMap fun c _ => ascii_escapeChar c
  simp [writeText, inside]

theorem ascii_integer (i : Int) : Ascii (Decimal.integer i) := by
  have digits : Ascii (Decimal.digits i.natAbs) := by
    intro c inside
    have digit := isDigit_digits inside
    simp only [Char.isDigit, Bool.and_eq_true, decide_eq_true_eq] at digit
    exact Nat.lt_of_le_of_lt digit.2 (by decide)
  unfold Decimal.integer
  split
  · exact ascii_cons.mpr ⟨by decide, digits⟩
  · exact digits

theorem ascii_gap (layout : Layout) (depth : Nat) : Ascii (layout.gap depth) := by
  cases layout with
  | line => exact ascii_nil
  | indented =>
    refine ascii_cons.mpr ⟨by decide, fun c inside => ?_⟩
    rw [List.eq_of_mem_replicate inside]
    decide

theorem ascii_separator (layout : Layout) (depth : Nat) : Ascii (layout.separator depth) := by
  cases layout with
  | line => simp [Layout.separator]
  | indented => exact ascii_cons.mpr ⟨by decide, ascii_gap .indented depth⟩

theorem ascii_writeItems {vs : List Value} {depth : Nat}
    (items : ∀ v ∈ vs, Ascii (write layout depth v)) : Ascii (writeItems layout depth vs) := by
  induction vs with
  | nil => exact ascii_nil
  | cons v vs ih =>
    have first := items v List.mem_cons_self
    have later := ih fun w inside => items w (List.mem_cons_of_mem v inside)
    simp only [writeItems, ascii_append]
    exact ⟨⟨ascii_separator layout depth, first⟩, later⟩

theorem ascii_writeMembers {ms : Members} {depth : Nat}
    (members : ∀ m ∈ ms, Ascii (write layout depth m.2)) :
    Ascii (writeMembers layout depth ms) := by
  induction ms with
  | nil => exact ascii_nil
  | cons m ms ih =>
    have first := members m List.mem_cons_self
    have later := ih fun n inside => members n (List.mem_cons_of_mem m inside)
    simp only [writeMembers, ascii_append]
    exact ⟨⟨⟨⟨ascii_separator layout depth, ascii_writeText m.1⟩, by simp⟩, first⟩, later⟩

/-- The text of a plain value is ASCII, whatever texts are in the value. -/
theorem ascii_write {v : Value} (plain : Plain v) (depth : Nat) : Ascii (write layout depth v) := by
  induction plain generalizing depth with
  | null => simp [write]
  | bool b =>
    cases b with
    | true => simp [write]
    | false => simp [write]
  | int short => exact ascii_integer _
  | text s => exact ascii_writeText s
  | @list vs _ items =>
    cases vs with
    | nil => simp [write]
    | cons v vs =>
      have first := items v List.mem_cons_self (depth + 1)
      have later : Ascii (writeItems layout (depth + 1) vs) :=
        ascii_writeItems fun w inside => items w (List.mem_cons_of_mem v inside) (depth + 1)
      simp [write, ascii_gap, first, later]
  | @object ms _ _ members =>
    cases ms with
    | nil => simp [write]
    | cons m ms =>
      have first := members m List.mem_cons_self (depth + 1)
      have later : Ascii (writeMembers layout (depth + 1) ms) :=
        ascii_writeMembers fun n inside => members n (List.mem_cons_of_mem m inside) (depth + 1)
      simp [write, ascii_gap, ascii_writeText, first, later]

end CredoAssistant.Json
