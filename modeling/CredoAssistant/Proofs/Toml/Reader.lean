import CredoAssistant.Proofs.Toml.Scalar

/-!
For which documents the reader gives up: on an integer only where that many digits stand, and on
values within values only where brackets nest so deep. The parts of the reader follow each other
through the text, and what a document does with the pairs and headers that are read adds nothing to
that.
-/
namespace CredoAssistant.Toml

variable {α : Type} {stack : Stack} {cs rest : List Char} {n room : Nat}

/-! ### Nested values -/

/-- What an opening bracket takes of the room is less than what one level of nesting counts for. -/
theorem reads_enter {taken : Nat} (few : taken ≤ inlineCalls)
    {f : Nat → Except Failure (α × List Char)} (opened : nesting cs = nesting rest + 1)
    (tail : rest <:+ cs) (inside : ∀ room, Reads room 1 rest (f room)) :
    Reads room 0 cs (enter taken room >>= f) := by
  unfold enter
  split
  · have later := inside (room - taken)
    change Comes room cs _ (f (room - taken))
    match f (room - taken), later with
    | .ok (_, left), passes => exact passes.enclose opened tail
    | .error (.oversizedInteger _), found => exact HasOversized.widen found tail.isInfix
    | .error .tooDeep, deep =>
      change room - taken < inlineCalls * nesting rest at deep
      change room < inlineCalls * nesting cs
      rw [opened, Nat.mul_succ]
      omega
    | .error (.malformed _ _), _ => trivial
  · change room < inlineCalls * nesting cs
    rw [opened, Nat.mul_succ]
    omega

theorem reads_items {fuel : Nat} (value : ∀ cs, Reads room 0 cs (readValue fuel room cs))
    (items : ∀ acc cs, Reads room 1 cs (readItems fuel room acc cs)) (acc : List Value)
    (cs : List Char) : Reads room 1 cs (readItems (fuel + 1) room acc cs) := by
  rw [readItems]
  refine (value cs).bind fun found left => ?_
  obtain ⟨v, rest⟩ := found
  refine ((skips_filler (rest.length + 1) rest).skips left).bind fun rest left => ?_
  split
  · rename_i tail
    exact left.trans (.endList tail)
  · rename_i tail
    have further : Passes 0 cs tail := left.trans (.flat (by decide) tail)
    refine ((skips_filler (tail.length + 1) tail).skips further).bind fun rest left => ?_
    split
    · rename_i tail
      exact left.trans (.endList tail)
    · exact (items _ _).reads left
  · trivial

theorem reads_pair {fuel : Nat} (value : ∀ cs, Reads room 0 cs (readValue fuel room cs))
    (cs : List Char) : Reads room 0 cs (readPair (fuel + 1) room cs) := by
  rw [readPair]
  refine (comes_key cs).bind fun found passed => ?_
  obtain ⟨key, rest⟩ := found
  dsimp only
  split
  · rename_i tail
    have equals : Passes 0 cs ('=' :: tail) := passed.2 (by simp [Quotes])
    have further : Passes 0 cs (skipBlanks tail) :=
      (equals.trans (.flat (by decide) tail)).trans (passes_blanks tail)
    exact ((value (skipBlanks tail)).reads further).bind fun _ left => left
  · trivial

/-- What a table does with a pair gives up nothing. -/
theorem comes_raise (behind cs : List Char) (r : Except Cause α) :
    Comes room cs (fun _ => True) (raiseAt behind r) := by
  cases r with
  | ok a => trivial
  | error cause => trivial

theorem reads_inline {fuel : Nat} (pair : ∀ cs, Reads room 0 cs (readPair fuel room cs))
    (inner : ∀ frozen ms cs, Reads room 1 cs (readInline fuel room frozen ms cs))
    (frozen : List Key) (ms : Members) (cs : List Char) :
    Reads room 1 cs (readInline (fuel + 1) room frozen ms cs) := by
  rw [readInline]
  refine (pair cs).bind fun found left => ?_
  obtain ⟨⟨key, v⟩, rest⟩ := found
  dsimp only
  split
  · trivial
  · refine (comes_raise rest cs _).bind fun ms _ => ?_
    have blanks : Passes 0 cs (skipBlanks rest) := left.trans (passes_blanks rest)
    split
    · rename_i tail found
      rw [found] at blanks
      exact blanks.trans (.endObject tail)
    · rename_i tail found
      rw [found] at blanks
      exact (inner _ _ _).reads ((blanks.trans (.flat (by decide) tail)).trans (passes_blanks tail))
    · trivial

theorem reads_value {fuel : Nat}
    (items : ∀ room acc cs, Reads room 1 cs (readItems fuel room acc cs))
    (inner : ∀ room frozen ms cs, Reads room 1 cs (readInline fuel room frozen ms cs)) (room : Nat)
    (cs : List Char) : Reads room 0 cs (readValue (fuel + 1) room cs) := by
  have text {step : Except Failure (List Char × List Char)} (reads : Reads room 0 cs step) :
      Reads room 0 cs (step.map fun p => (Value.text (String.ofList p.1), p.2)) :=
    reads.map fun _ left => left
  rw [readValue.eq_def]
  dsimp only
  split
  · rename_i rest
    exact text (reads_text (ends_longText rest) (List.suffix_append ['"', '"', '"'] rest)
      (nesting_text (.inl rfl)))
  · rename_i rest short
    exact text (reads_text (ends_lineText rest) (List.suffix_cons '"' rest)
      ((nesting_text (.inl rfl)).trans (by rw [afterText.eq_2 rest short])))
  · rename_i rest
    exact text (reads_text (ends_longLiteral rest) (List.suffix_append ['\'', '\'', '\''] rest)
      (nesting_text (.inr rfl)))
  · rename_i rest short
    exact text (reads_text (ends_literal rest) (List.suffix_cons '\'' rest)
      ((nesting_text (.inr rfl)).trans (by rw [afterText.eq_4 rest short])))
  · exact Passes.flats ['t', 'r', 'u', 'e'] (by simp [marks]) _
  · exact Passes.flats ['f', 'a', 'l', 's', 'e'] (by simp [marks]) _
  · rename_i rest
    refine reads_enter (by decide) nesting_list (List.suffix_cons '[' rest) fun room => ?_
    refine (skips_filler (rest.length + 1) rest).bind fun rest left => ?_
    split
    · rename_i tail
      exact left.trans (.endList tail)
    · exact ((items room [] rest).reads left).bind fun _ left => left
  · rename_i rest
    refine reads_enter (Nat.le_refl _) nesting_object (List.suffix_cons '{' rest) fun room => ?_
    have blanks := passes_blanks rest
    split
    · rename_i tail found
      rw [found] at blanks
      exact blanks.trans (.endObject tail)
    · exact ((inner room [] [] _).reads blanks).bind fun _ left => left
  · exact reads_plain cs

/-- The readers of nested values, by the fuel they share. -/
theorem reads_nested (fuel : Nat) :
    (∀ room cs, Reads room 0 cs (readValue fuel room cs)) ∧
      (∀ room acc cs, Reads room 1 cs (readItems fuel room acc cs)) ∧
      (∀ room cs, Reads room 0 cs (readPair fuel room cs)) ∧
      ∀ room frozen ms cs, Reads room 1 cs (readInline fuel room frozen ms cs) := by
  induction fuel with
  | zero =>
    refine ⟨fun room cs => ?_, fun room acc cs => ?_, fun room cs => ?_,
      fun room frozen ms cs => ?_⟩
    · rw [readValue.eq_def]
      trivial
    · rw [readItems.eq_def]
      trivial
    · rw [readPair.eq_def]
      trivial
    · rw [readInline.eq_def]
      trivial
  | succ fuel ih =>
    obtain ⟨value, items, pair, inner⟩ := ih
    exact ⟨reads_value items inner, fun room => reads_items (value room) (items room),
      fun room => reads_pair (value room), fun room => reads_inline (pair room) (inner room)⟩

/-! ### Documents -/

theorem comes_addPair (d : Draft) (key : Key) (v : Value) (behind cs : List Char) :
    Comes room cs (fun _ => True) (d.addPair key v behind) := by
  unfold Draft.addPair
  dsimp only
  split
  · trivial
  · split
    · trivial
    · exact (comes_raise behind cs _).bind fun _ _ => trivial

theorem comes_openTable (d : Draft) (key : Key) (behind cs : List Char) :
    Comes room cs (fun _ => True) (d.openTable key behind) := by
  unfold Draft.openTable
  split
  · trivial
  · exact (comes_raise behind cs _).bind fun _ _ => trivial

theorem comes_openArrayTable (d : Draft) (key : Key) (behind cs : List Char) :
    Comes room cs (fun _ => True) (d.openArrayTable key behind) := by
  unfold Draft.openArrayTable
  split
  · trivial
  · exact (comes_raise behind cs _).bind fun _ _ => trivial

/-- A header closes the bracket that stands in front of it. -/
theorem reads_header (d : Draft) (cs : List Char) :
    Reads room 0 ('[' :: cs) (readHeader d cs) := by
  have inside (cs : List Char) : Passes 0 ('[' :: cs) (skipBlanks cs) :=
    (Passes.bracket cs).trans (passes_blanks cs)
  unfold readHeader
  split
  · rename_i rest
    have front : Passes 0 ('[' :: '[' :: rest) (skipBlanks rest) :=
      (Passes.bracket _).trans (inside rest)
    refine ((comes_key (skipBlanks rest)).mono front fun _ passed => passed).bind
      fun (key, left) passed => ?_
    refine (comes_openArrayTable d.settle key left _).bind fun d _ => ?_
    split
    · rename_i tail
      have closing : Passes 0 (skipBlanks rest) (']' :: ']' :: tail) := passed.2 (by simp [Quotes])
      have within : Passes 2 rest tail :=
        ((passes_blanks rest).trans closing).trans (.endLists tail)
      exact (within.enclose nesting_list (List.suffix_cons '[' rest)).enclose nesting_list
        (List.suffix_cons '[' _)
    · trivial
  · refine ((comes_key (skipBlanks cs)).mono (inside cs) fun _ passed => passed).bind
      fun (key, rest) passed => ?_
    refine (comes_openTable d.settle key rest _).bind fun d _ => ?_
    split
    · rename_i tail
      have closing : Passes 0 (skipBlanks cs) (']' :: tail) := passed.2 (by simp [Quotes])
      have within : Passes 1 cs tail := ((passes_blanks cs).trans closing).trans (.endList tail)
      exact within.enclose nesting_list (List.suffix_cons '[' cs)
    · trivial

theorem reads_statement (d : Draft) (cs : List Char) :
    Reads room 0 cs (readStatement room d cs) := by
  unfold readStatement
  split
  · exact reads_header d _
  · exact .refl _
  · split
    · refine ((reads_nested _).2.2.1 room _).bind fun ((key, v), rest) left => ?_
      exact (comes_addPair d key v rest _).bind fun _ _ => left
    · trivial
  · exact .refl _

theorem comes_lines (fuel : Nat) (d : Draft) (cs : List Char) :
    Comes room cs (fun _ => True) (readLines room fuel d cs) := by
  induction fuel generalizing d cs with
  | zero => trivial
  | succ fuel ih =>
    have blanks := passes_blanks cs
    rw [readLines]
    split
    · trivial
    · rename_i rest found
      rw [found] at blanks
      exact (ih d rest).mono (blanks.trans (.flat (by decide) rest)) fun _ _ => trivial
    · refine ((reads_statement d _).reads blanks).bind fun (d, rest) left => ?_
      have behind : Passes 0 cs (skipBlanks rest) := left.trans (passes_blanks rest)
      refine ((skips_comment (skipBlanks rest)).skips behind).bind fun rest left => ?_
      split
      · trivial
      · rename_i tail
        exact (ih d tail).mono (left.trans (.flat (by decide) tail)) fun _ _ => trivial
      · trivial

theorem comes_read (stack : Stack) (cs : List Char) :
    Comes stack.calls cs (fun _ => True) (read stack cs) :=
  (comes_lines (cs.length + 1) .empty cs).map fun _ _ => trivial

/-- A document is given up for an integer only if that many digits stand in it. -/
theorem hasOversized_of_read (failed : read stack cs = .error (.oversizedInteger n)) :
    HasOversized n cs := by
  have comes := comes_read stack cs
  rw [failed] at comes
  exact comes

/-- A document is given up for its values within values only if its brackets nest deep. -/
theorem lt_nesting_of_read (failed : read stack cs = .error .tooDeep) :
    stack.calls < inlineCalls * nesting cs := by
  have comes := comes_read stack cs
  rw [failed] at comes
  exact comes

/-! ### Line ends -/

theorem prefix_of_normalized {run : List Char} (unbroken : '\n' ∉ run)
    (front : run <+: normalizeLineEnds cs) : run <+: cs := by
  induction cs using normalizeLineEnds.induct generalizing run with
  | case1 rest ih =>
    rw [normalizeLineEnds] at front
    rcases List.prefix_cons_iff.mp front with rfl | ⟨tail, rfl, _⟩
    · exact List.nil_prefix
    · exact absurd List.mem_cons_self unbroken
  | case2 c rest other ih =>
    rw [normalizeLineEnds.eq_2 c rest other] at front
    rcases List.prefix_cons_iff.mp front with rfl | ⟨tail, rfl, later⟩
    · exact List.nil_prefix
    · exact (List.prefix_cons_inj c).mpr (ih (fun inside => unbroken (.tail c inside)) later)
  | case3 => exact front

theorem infix_of_normalized {run : List Char} (unbroken : '\n' ∉ run)
    (inside : run <:+: normalizeLineEnds cs) : run <:+: cs := by
  induction cs using normalizeLineEnds.induct with
  | case1 rest ih =>
    have whole : normalizeLineEnds ('\r' :: '\n' :: rest) = '\n' :: normalizeLineEnds rest := rfl
    rw [whole] at inside
    rcases List.infix_cons_iff.mp inside with front | later
    · exact (prefix_of_normalized unbroken (whole ▸ front)).isInfix
    · exact (ih later).trans (List.suffix_append ['\r', '\n'] rest).isInfix
  | case2 c rest other ih =>
    have whole := normalizeLineEnds.eq_2 c rest other
    rw [whole] at inside
    rcases List.infix_cons_iff.mp inside with front | later
    · exact (prefix_of_normalized unbroken (whole ▸ front)).isInfix
    · exact (ih later).trans (List.suffix_cons c rest).isInfix
  | case3 => exact inside

/-- Digits in a row stand so in the text before its line ends are normalized. -/
theorem HasOversized.of_normalized (found : HasOversized n (normalizeLineEnds cs)) :
    HasOversized n cs := by
  obtain ⟨many, run, within, digits, plain⟩ := found
  refine ⟨many, run, infix_of_normalized (fun broken => ?_) within, digits, plain⟩
  exact absurd (plain '\n' broken) (by decide)

theorem normalizeLineEnds_eq_self (plain : '\r' ∉ cs) : normalizeLineEnds cs = cs := by
  induction cs using normalizeLineEnds.induct with
  | case1 rest ih => exact absurd List.mem_cons_self plain
  | case2 c rest other ih =>
    rw [normalizeLineEnds.eq_2 c rest other, ih fun inside => plain (.tail c inside)]
  | case3 => rfl

/-! ### Integers that are too long -/

variable {c : Char} {ds : List Char}

theorem readValue_digits (digits : ∀ d ∈ c :: ds, d.isDigit = true) (fuel : Nat) :
    readValue (fuel + 1) room (c :: ds) = readNumber (c :: ds) := by
  have digit := digits c List.mem_cons_self
  rw [← readPlain_digits digits, readValue.eq_def]
  dsimp only
  split
  iterate 8
    · rename_i front
      exact absurd (List.cons.inj front).1 (Json.ne_of_isDigit digit (by decide))
  · rfl

/-- An integer with too many digits is given up. -/
theorem read_oversized (leading : c ≠ '0') (digits : ∀ d ∈ c :: ds, d.isDigit = true)
    (many : Json.maxDigits < (c :: ds).length) :
    read stack ('x' :: '=' :: c :: ds) = .error (.oversizedInteger (c :: ds).length) := by
  have digit := digits c List.mem_cons_self
  have blanks : skipBlanks (c :: ds) = c :: ds := by
    refine List.dropWhile_cons_of_neg ?_
    simp [isBlank, Json.ne_of_isDigit digit]
  have key : readKey ('x' :: '=' :: c :: ds) = .ok (["x"], '=' :: c :: ds) := by
    rfl
  have pair (fuel : Nat) : readPair (fuel + 2) stack.calls ('x' :: '=' :: c :: ds) =
      .error (.oversizedInteger (c :: ds).length) := by
    rw [readPair, key]
    simp only [bind, Except.bind]
    rw [blanks, readValue_digits digits, readNumber_oversized leading digits many]
  have line : ∃ next, readLines stack.calls (('x' :: '=' :: c :: ds).length + 1) .empty
      ('x' :: '=' :: c :: ds) =
        readStatement stack.calls .empty ('x' :: '=' :: c :: ds) >>= next := ⟨_, rfl⟩
  have statement : ∃ next, readStatement stack.calls .empty ('x' :: '=' :: c :: ds) =
      readPair (2 * ('x' :: '=' :: c :: ds).length + 2) stack.calls ('x' :: '=' :: c :: ds) >>=
        next := ⟨_, rfl⟩
  obtain ⟨later, line⟩ := line
  obtain ⟨next, statement⟩ := statement
  rw [read, line, statement, pair]
  rfl

end CredoAssistant.Toml
