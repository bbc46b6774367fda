import CredoAssistant.Proofs.Entries
import CredoAssistant.Proofs.Json.Completeness
import CredoAssistant.Proofs.Json.Text
import Mathlib.Data.List.Basic
import Mathlib.Data.List.Nodup

/-!
Written values are read back. A value is plain when it holds no fractions and no dates, its integers
are short enough to be converted, and no object of it repeats a name. Whatever the layout, what is
written for a plain value is a JSON text of that value, and it nests as deep as the value is high.
So it is read as that value wherever there is room for its height. The induction is on the value;
what is written for a list or an object are separated parts of the grammar.
-/
namespace CredoAssistant.Json

variable {stack : Stack} {layout : Layout} {depth : Nat} {fits : List Char → Prop}

/-- An integer of no more digits than are converted. -/
def IsConvertible (i : Int) : Prop := (Decimal.digits i.natAbs).length ≤ maxDigits

instance (i : Int) : Decidable (IsConvertible i) := inferInstanceAs (Decidable (_ ≤ _))

/-- A value whose text says everything about it. -/
inductive Plain : Value → Prop
  | null : Plain .null
  | bool (b : Bool) : Plain (.bool b)
  | int {i : Int} (short : IsConvertible i) : Plain (.int i)
  | text (s : String) : Plain (.text s)
  | list {vs : List Value} (items : ∀ v ∈ vs, Plain v) : Plain (.list vs)
  | object {ms : Members} (distinct : (Entries.keys ms).Nodup) (members : ∀ m ∈ ms, Plain m.2) :
      Plain (.object ms)

theorem Plain.optional {n : Option Int} (short : ∀ i ∈ n, IsConvertible i) :
    Plain (.optional .int n) := by
  cases n with
  | none => exact .null
  | some i => exact .int (short i rfl)

@[simp] theorem plain_null : Plain .null := .null

@[simp] theorem plain_text (s : String) : Plain (.text s) := .text s

@[simp] theorem plain_int_iff {i : Int} : Plain (.int i) ↔ IsConvertible i :=
  ⟨fun | .int short => short, .int⟩

@[simp] theorem plain_list_iff {vs : List Value} : Plain (.list vs) ↔ ∀ v ∈ vs, Plain v :=
  ⟨fun | .list items => items, .list⟩

@[simp] theorem plain_object_iff {ms : Members} :
    Plain (.object ms) ↔ (Entries.keys ms).Nodup ∧ ∀ m ∈ ms, Plain m.2 :=
  ⟨fun | .object distinct members => ⟨distinct, members⟩,
    fun ⟨distinct, members⟩ => .object distinct members⟩

mutual

/-- How many lists and objects lie within each other in a value. -/
def height : Value → Nat
  | .list vs => heightOfItems vs + 1
  | .object ms => heightOfMembers ms + 1
  | _ => 0

def heightOfItems : List Value → Nat
  | [] => 0
  | v :: vs => max (height v) (heightOfItems vs)

def heightOfMembers : List (String × Value) → Nat
  | [] => 0
  | m :: ms => max (height m.2) (heightOfMembers ms)

end

theorem height_list_le {vs : List Value} {n : Nat} (items : ∀ v ∈ vs, height v ≤ n) :
    height (.list vs) ≤ n + 1 := by
  refine Nat.succ_le_succ ?_
  induction vs with
  | nil => exact Nat.zero_le n
  | cons v vs ih =>
    obtain ⟨first, items⟩ := List.forall_mem_cons.mp items
    exact Nat.max_le.mpr ⟨first, ih items⟩

theorem height_object_le {ms : Members} {n : Nat} (members : ∀ m ∈ ms, height m.2 ≤ n) :
    height (.object ms) ≤ n + 1 := by
  refine Nat.succ_le_succ ?_
  induction ms with
  | nil => exact Nat.zero_le n
  | cons m ms ih =>
    obtain ⟨first, members⟩ := List.forall_mem_cons.mp members
    exact Nat.max_le.mpr ⟨first, ih members⟩

@[simp] theorem height_optional (n : Option Int) : height (.optional .int n) = 0 := by
  cases n <;> rfl

/-! ### Integers -/

theorem isDigit_digits {n : Nat} {c : Char} (inside : c ∈ Decimal.digits n) : c.isDigit = true :=
  Nat.isDigit_of_mem_toDigits (by decide) (by decide) inside

/-- Only zero has a leading zero. -/
theorem digits_head {n : Nat} (positive : 0 < n) :
    ∃ c ds, Decimal.digits n = c :: ds ∧ c ≠ '0' := by
  induction n using Nat.strongRecOn with
  | ind n ih =>
    by_cases small : n < 10
    · refine ⟨n.digitChar, [], Nat.toDigits_of_lt_base small, ?_⟩
      have nonzero : ∀ m < 10, 0 < m → m.digitChar ≠ '0' := by decide
      exact nonzero n small positive
    · obtain ⟨c, ds, front, leading⟩ := ih (n / 10) (by omega) (by omega)
      refine ⟨c, ds ++ [(n % 10).digitChar], ?_, leading⟩
      rw [Decimal.digits, Nat.toDigits_of_base_le (by decide) (Nat.le_of_not_lt small)]
      exact congrArg (· ++ [(n % 10).digitChar]) front

theorem whole_digits (n : Nat) : Whole (Decimal.digits n) := by
  rcases Nat.eq_zero_or_pos n with rfl | positive
  · exact .zero
  · obtain ⟨c, ds, front, leading⟩ := digits_head positive
    have digits : ∀ d ∈ Decimal.digits n, d.isDigit = true := fun _ => isDigit_digits
    rw [front] at digits ⊢
    exact .digits leading digits

theorem denotes_integer {i : Int} (enough : ∀ ds, Convertible ds → fits ds)
    (short : IsConvertible i) : Denotes fits (Decimal.integer i) (.int i) := by
  have written (negative : Bool) : Denotes fits (minus negative ++ Decimal.digits i.natAbs)
      (.int (if negative then -(Decimal.value (Decimal.digits i.natAbs) : Int)
        else (Decimal.value (Decimal.digits i.natAbs) : Int))) :=
    .integer (whole_digits i.natAbs) (enough _ short)
  simp only [Decimal.value_digits] at written
  unfold Decimal.integer
  split
  · rename_i below
    have value : -((i.natAbs : Nat) : Int) = i := by omega
    have negative := written true
    simp only [if_true, value] at negative
    exact negative
  · rename_i above
    have value : ((i.natAbs : Nat) : Int) = i := by omega
    have positive := written false
    simp only [Bool.false_eq_true, if_false, value] at positive
    exact positive

/-! ### Texts, lists and objects -/

theorem denotes_text (s : String) : Denotes fits (writeText s) (.text s) := by
  have written : Denotes fits _ (.text (String.ofList s.toList)) :=
    .text (spells_flatMap s.toList)
  rwa [String.ofList_toList] at written

theorem blank_gap (layout : Layout) (depth : Nat) : Blank (layout.gap depth) := by
  intro c inside
  cases layout with
  | line => cases inside
  | indented =>
    rcases List.mem_cons.mp inside with rfl | blank
    · rfl
    · rw [List.eq_of_mem_replicate blank]
      rfl

theorem blank_space : Blank [' '] := by simp [Blank, isSpace]

/-- A separator is a comma and white space. -/
theorem separator_eq (layout : Layout) (depth : Nat) :
    ∃ gap, layout.separator depth = ',' :: gap ∧ Blank gap := by
  cases layout with
  | line => exact ⟨[' '], rfl, blank_space⟩
  | indented => exact ⟨_, rfl, blank_gap .indented depth⟩

/-- The items of a list are written with separators between them. -/
theorem separated_items {v : Value} {vs : List Value} {gap : List Char} (blank : Blank gap)
    (items : ∀ w ∈ v :: vs, Denotes fits (write layout depth w) w) :
    Separated (Denotes fits) (write layout depth v ++ (writeItems layout depth vs ++ gap))
      (v :: vs) := by
  have first := items v List.mem_cons_self
  induction vs generalizing v with
  | nil =>
    rw [writeItems, List.nil_append]
    exact .last first blank
  | cons w ws ih =>
    obtain ⟨between, separator, space⟩ := separator_eq layout depth
    have later : ∀ u ∈ w :: ws, Denotes fits (write layout depth u) u :=
      fun u inside => items u (List.mem_cons_of_mem v inside)
    have separated := ih later (later w List.mem_cons_self)
    rw [writeItems, separator]
    simpa only [List.append_assoc, List.cons_append, List.nil_append] using
      Separated.next first blank_nil space separated

theorem named_write {k : String} {v : Value} (value : Denotes fits (write layout depth v) v) :
    Named (Denotes fits) (writeText k ++ ':' :: ' ' :: write layout depth v) (k, v) := by
  have named := Named.mk (spells_flatMap k.toList) blank_nil blank_space value
  rw [String.ofList_toList] at named
  simpa only [writeText, List.append_assoc, List.cons_append, List.nil_append] using named

/-- The members of an object are written with separators between them. -/
theorem separated_members {k : String} {v : Value} {ms : Members} {gap : List Char}
    (blank : Blank gap) (members : ∀ m ∈ (k, v) :: ms, Denotes fits (write layout depth m.2) m.2) :
    Separated (Named (Denotes fits)) (writeText k ++ ':' :: ' ' :: (write layout depth v ++
      (writeMembers layout depth ms ++ gap))) ((k, v) :: ms) := by
  have first := named_write (k := k) (members (k, v) List.mem_cons_self)
  induction ms generalizing k v with
  | nil =>
    rw [writeMembers, List.nil_append]
    simpa only [List.append_assoc, List.cons_append] using Separated.last first blank
  | cons m ms ih =>
    obtain ⟨l, w⟩ := m
    obtain ⟨between, separator, space⟩ := separator_eq layout depth
    have later : ∀ n ∈ (l, w) :: ms, Denotes fits (write layout depth n.2) n.2 :=
      fun n inside => members n (List.mem_cons_of_mem (k, v) inside)
    have separated := ih later (named_write (later (l, w) List.mem_cons_self))
    rw [writeMembers, separator]
    simpa only [List.append_assoc, List.cons_append, List.nil_append] using
      Separated.next first blank_nil space separated

theorem denotes_list {vs : List Value}
    (items : ∀ v ∈ vs, Denotes fits (write layout (depth + 1) v) v) :
    Denotes fits (write layout depth (.list vs)) (.list vs) := by
  cases vs with
  | nil => exact .list (.none blank_nil)
  | cons v vs =>
    have separated := separated_items (blank_gap layout depth) items
    rw [write]
    refine .list ?_
    simpa only [List.append_assoc, List.cons_append] using
      Enclosed.some (blank_gap layout (depth + 1)) separated

/-- Members are written as they stand in an object, also when names are repeated. -/
theorem denotesMembers_write {ms : Members}
    (members : ∀ m ∈ ms, Denotes fits (write layout (depth + 1) m.2) m.2) :
    DenotesMembers fits (write layout depth (.object ms)) ms := by
  cases ms with
  | nil => exact .none blank_nil
  | cons m ms =>
    obtain ⟨k, v⟩ := m
    have separated := separated_members (blank_gap layout depth) members
    rw [write]
    simpa only [List.append_assoc, List.cons_append, List.nil_append] using
      Enclosed.some (blank_gap layout (depth + 1)) separated

theorem denotes_object {ms : Members} (distinct : (Entries.keys ms).Nodup)
    (members : ∀ m ∈ ms, Denotes fits (write layout (depth + 1) m.2) m.2) :
    Denotes fits (write layout depth (.object ms)) (.object ms) := by
  have joined : Denotes fits (write layout depth (.object ms)) (.object (Entries.ofPairs ms)) :=
    .object (denotesMembers_write members)
  rwa [Entries.ofPairs_eq_self distinct] at joined

/-- What is written for a plain value stands for it. -/
theorem denotes_of_plain {v : Value} (enough : ∀ ds, Convertible ds → fits ds) (plain : Plain v)
    (depth : Nat) : Denotes fits (write layout depth v) v := by
  induction plain generalizing depth with
  | null => exact .word (.head _)
  | bool b =>
    cases b with
    | true => exact .word (.tail _ (.head _))
    | false => exact .word (.tail _ (.tail _ (.head _)))
  | int short => exact denotes_integer enough short
  | text s => exact denotes_text s
  | list _ items => exact denotes_list fun v inside => items v inside (depth + 1)
  | object distinct _ members =>
    exact denotes_object distinct fun m inside => members m inside (depth + 1)

/-! ### Nesting -/

theorem afterText_spells {cs s rest : List Char} (spelled : Spells cs s) :
    afterText (cs ++ '"' :: rest) = rest := by
  have closes := closes_text 0 [] (cs ++ '"' :: rest)
  rw [readText_spells spelled] at closes
  exact Eq.symm closes

theorem nesting_writeText (s : String) (rest : List Char) :
    nesting (writeText s ++ rest) = nesting rest := by
  have closed : afterText (s.toList.flatMap escapeChar ++ '"' :: rest) = rest :=
    afterText_spells (spells_flatMap s.toList)
  rw [writeText, List.append_assoc, List.cons_append, List.singleton_append, nesting_text, closed]

theorem isFlat_integer (i : Int) : ∀ c ∈ Decimal.integer i, IsFlat c := by
  have digits : ∀ c ∈ Decimal.digits i.natAbs, IsFlat c := fun c inside =>
    isFlat_of_isDigit (isDigit_digits inside)
  unfold Decimal.integer
  split
  · exact List.forall_mem_cons.mpr ⟨by decide, digits⟩
  · exact digits

theorem nesting_separator (layout : Layout) (depth : Nat) (rest : List Char) :
    nesting (layout.separator depth ++ rest) = nesting rest := by
  obtain ⟨gap, separator, blank⟩ := separator_eq layout depth
  rw [separator, List.cons_append, nesting_flat (by decide), nesting_blank blank]

/-- The text of a value nests as deep as the value is high, whatever stands behind it. -/
def Nests (layout : Layout) (depth : Nat) (v : Value) : Prop :=
  ∀ rest, nesting (write layout depth v ++ rest) = max (height v) (nesting rest)

theorem nesting_writeItems {vs : List Value} (items : ∀ v ∈ vs, Nests layout depth v)
    (rest : List Char) :
    nesting (writeItems layout depth vs ++ rest) = max (heightOfItems vs) (nesting rest) := by
  induction vs with
  | nil => exact (Nat.zero_max _).symm
  | cons v vs ih =>
    obtain ⟨first, items⟩ := List.forall_mem_cons.mp items
    rw [writeItems, heightOfItems, List.append_assoc, List.append_assoc, nesting_separator, first,
      ih items, Nat.max_assoc]

theorem nesting_named {k : String} {v : Value} (value : Nests layout depth v) (rest : List Char) :
    nesting (writeText k ++ ([':', ' '] ++ (write layout depth v ++ rest))) =
      max (height v) (nesting rest) := by
  have flat : ∀ c ∈ [':', ' '], IsFlat c := by simp [IsFlat]
  rw [nesting_writeText, nesting_append flat, value]

theorem nesting_writeMembers {ms : Members} (members : ∀ m ∈ ms, Nests layout depth m.2)
    (rest : List Char) :
    nesting (writeMembers layout depth ms ++ rest) = max (heightOfMembers ms) (nesting rest) := by
  induction ms with
  | nil => exact (Nat.zero_max _).symm
  | cons m ms ih =>
    obtain ⟨first, members⟩ := List.forall_mem_cons.mp members
    simp only [writeMembers, heightOfMembers, List.append_assoc]
    rw [nesting_separator, nesting_named first, ih members, Nat.max_assoc]

theorem nests_list {vs : List Value} (items : ∀ v ∈ vs, Nests layout (depth + 1) v) :
    Nests layout depth (.list vs) := by
  intro rest
  cases vs with
  | nil =>
    simp only [write, height, heightOfItems, List.cons_append, List.nil_append, nesting_list,
      nesting_endList]
    omega
  | cons v vs =>
    obtain ⟨first, items⟩ := List.forall_mem_cons.mp items
    simp only [write, height, heightOfItems, List.cons_append, List.append_assoc, List.nil_append,
      nesting_list, nesting_blank (blank_gap _ _), first _, nesting_writeItems items,
      nesting_endList]
    omega

theorem nests_object {ms : Members} (members : ∀ m ∈ ms, Nests layout (depth + 1) m.2) :
    Nests layout depth (.object ms) := by
  intro rest
  cases ms with
  | nil =>
    simp only [write, height, heightOfMembers, List.cons_append, List.nil_append, nesting_object,
      nesting_endObject]
    omega
  | cons m ms =>
    obtain ⟨first, members⟩ := List.forall_mem_cons.mp members
    have named := nesting_named (k := m.1) first
    simp only [List.cons_append, List.nil_append] at named
    simp only [write, height, heightOfMembers, List.cons_append, List.append_assoc,
      List.nil_append, nesting_object, nesting_blank (blank_gap _ _), named,
      nesting_writeMembers members, nesting_endObject]
    omega

theorem nests_of_plain {v : Value} (plain : Plain v) (depth : Nat) : Nests layout depth v := by
  have flat {word : List Char} (flat : ∀ c ∈ word, IsFlat c) (rest : List Char) :
      nesting (word ++ rest) = max 0 (nesting rest) := by
    rw [nesting_append flat, Nat.zero_max]
  induction plain generalizing depth with
  | null => exact flat (isFlat_words (_, .null) (.head _))
  | bool b =>
    cases b with
    | true => exact flat (isFlat_words (_, .bool true) (.tail _ (.head _)))
    | false => exact flat (isFlat_words (_, .bool false) (.tail _ (.tail _ (.head _))))
  | int short => exact flat (isFlat_integer _)
  | text s => exact fun rest => (nesting_writeText s rest).trans (Nat.zero_max _).symm
  | list _ items => exact nests_list fun v inside => items v inside (depth + 1)
  | object _ _ members => exact nests_object fun m inside => members m inside (depth + 1)

/-- A text that is written for a plain value is read as that value where there is room for it, in
either layout and with any white space behind it. -/
theorem read_write_append {v : Value} (layout : Layout) (plain : Plain v)
    (room : height v ≤ stack.levels) {blanks : List Char}
    (space : ∀ c ∈ blanks, isSpace c = true) :
    read stack (write layout 0 v ++ blanks) = .ok v := by
  refine read_of_document (.mk blank_nil (denotes_of_plain (fun _ few => few) plain 0) space) ?_
  have last : nesting blanks = 0 := by
    rw [← List.append_nil blanks, nesting_blank space, nesting_nil]
  rw [nests_of_plain plain 0, last, Nat.max_zero]
  exact room

theorem read_write_of_plain {v : Value} (layout : Layout) (plain : Plain v)
    (room : height v ≤ stack.levels) : read stack (write layout 0 v) = .ok v := by
  have whole := read_write_append layout plain room blank_nil
  rwa [List.append_nil] at whole

theorem read_render_of_plain {v : Value} (layout : Layout) (plain : Plain v)
    (room : height v ≤ stack.levels) : read stack (render layout v).toList = .ok v := by
  rw [render, String.toList_ofList]
  exact read_write_of_plain layout plain room

end CredoAssistant.Json
