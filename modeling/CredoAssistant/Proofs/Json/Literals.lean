import CredoAssistant.Json.Reader
import Mathlib.Data.List.TakeWhile

/-!
Integer literals of a text, found without reading it. Between quotation marks nothing counts, and
digits that a fraction or an exponent follows make no integer. Every other run of digits counts,
whatever stands around it, so the literals of a text that is no JSON are told as well. What stands
behind a place in a text has its literals in the text when the place is between two tokens.
-/
namespace CredoAssistant.Json

variable {cs rest : List Char}

/-! ### The parts of a number -/

theorem takeWhole_append (cs : List Char) : (takeWhole cs).1 ++ (takeWhole cs).2 = cs := by
  unfold takeWhole
  split
  · rfl
  · exact List.takeWhile_append_dropWhile

theorem takeWhole_isDigit {c : Char} (inside : c ∈ (takeWhole cs).1) : c.isDigit = true := by
  unfold takeWhole at inside
  split at inside
  · obtain rfl := List.mem_singleton.mp inside
    rfl
  · exact List.all_eq_true.mp List.all_takeWhile c inside

theorem takeFraction_suffix (cs : List Char) : (takeFraction cs).2 <:+ cs := by
  unfold takeFraction
  split
  · split
    · exact (List.dropWhile_suffix _).trans (List.suffix_append ['.', _] _)
    · exact List.suffix_refl _
  · exact List.suffix_refl _

theorem takeSign_suffix (cs : List Char) : (Binary64.takeSign cs).2 <:+ cs := by
  unfold Binary64.takeSign
  split
  · exact List.suffix_cons _ _
  · exact List.suffix_cons _ _
  · exact List.suffix_refl _

theorem takeExponent_suffix (cs : List Char) : (takeExponent cs).2 <:+ cs := by
  unfold takeExponent
  split
  · rename_i mark rest
    have power := (List.dropWhile_suffix Char.isDigit).trans (takeSign_suffix rest)
    split
    · dsimp only
      split
      · exact List.suffix_refl _
      · exact power.trans (List.suffix_cons mark rest)
    · exact List.suffix_refl _
  · exact List.suffix_refl _

/-- What follows the number at the front of a text. -/
def afterNumber (cs : List Char) : List Char :=
  (takeExponent (takeFraction (takeWhole cs).2).2).2

/-- Whether the number at the front of a text has neither fraction nor exponent. -/
def isInteger (cs : List Char) : Bool :=
  let fraction := takeFraction (takeWhole cs).2
  fraction.1.isEmpty && (takeExponent fraction.2).1.isNone

theorem afterNumber_suffix (cs : List Char) : afterNumber cs <:+ cs := by
  have whole : (takeWhole cs).2 <:+ cs := ⟨_, takeWhole_append cs⟩
  have fraction := takeFraction_suffix (takeWhole cs).2
  have exponent := takeExponent_suffix (takeFraction (takeWhole cs).2).2
  exact (exponent.trans fraction).trans whole

/-- A digit belongs to the number at the front. -/
theorem afterNumber_length {c : Char} (digit : c.isDigit = true) :
    (afterNumber (c :: rest)).length ≤ rest.length := by
  have fraction := takeFraction_suffix (takeWhole (c :: rest)).2
  have exponent := takeExponent_suffix (takeFraction (takeWhole (c :: rest)).2).2
  have left : (takeWhole (c :: rest)).2.length ≤ rest.length := by
    unfold takeWhole
    split
    · rename_i zero
      exact Nat.le_of_eq (congrArg List.length (List.cons.inj zero).2).symm
    · rw [List.dropWhile_cons_of_pos digit]
      exact (List.dropWhile_suffix _).length_le
  exact (exponent.trans fraction).length_le.trans left

/-! ### Literals -/

/-- What follows the text that goes on at the front, behind its closing quotation mark. -/
def afterText : List Char → List Char
  | [] => []
  | '\\' :: _ :: rest => afterText rest
  | c :: rest => if c = '"' then rest else afterText rest

theorem afterText_suffix (cs : List Char) : afterText cs <:+ cs := by
  fun_induction afterText cs with
  | case1 => exact List.suffix_refl _
  | case2 e rest ih => exact ih.trans (List.suffix_append ['\\', e] rest)
  | case3 rest other => exact List.suffix_cons _ rest
  | case4 c rest other plain ih => exact ih.trans (List.suffix_cons c rest)

/-- The integer literals of a text in order, each by its digits. -/
def integers : List Char → List (List Char)
  | [] => []
  | c :: rest =>
    if c = '"' then integers (afterText rest)
    else if c.isDigit then
      if isInteger (c :: rest) then (takeWhole (c :: rest)).1 :: integers (afterNumber (c :: rest))
      else integers (afterNumber (c :: rest))
    else integers rest
termination_by cs => cs.length
decreasing_by
  · exact Nat.lt_succ_of_le (afterText_suffix rest).length_le
  · exact Nat.lt_succ_of_le (afterNumber_length ‹_›)
  · exact Nat.lt_succ_of_le (afterNumber_length ‹_›)
  · exact Nat.lt_succ_self _

theorem infix_of_mem_integers {ds : List Char} (inside : ds ∈ integers cs) :
    ds <:+: cs ∧ ∀ c ∈ ds, c.isDigit = true := by
  fun_induction integers cs with
  | case1 => cases inside
  | case2 rest ih =>
    obtain ⟨found, digits⟩ := ih inside
    have tail := (afterText_suffix rest).trans (List.suffix_cons '"' rest)
    exact ⟨found.trans tail.isInfix, digits⟩
  | case3 c rest text digit integer ih =>
    rcases List.mem_cons.mp inside with rfl | later
    · have front : (takeWhole (c :: rest)).1 <+: c :: rest := ⟨_, takeWhole_append _⟩
      exact ⟨front.isInfix, fun _ => takeWhole_isDigit⟩
    · obtain ⟨found, digits⟩ := ih later
      exact ⟨found.trans (afterNumber_suffix _).isInfix, digits⟩
  | case4 c rest text digit number ih =>
    obtain ⟨found, digits⟩ := ih inside
    exact ⟨found.trans (afterNumber_suffix _).isInfix, digits⟩
  | case5 c rest text other ih =>
    obtain ⟨found, digits⟩ := ih inside
    exact ⟨found.trans (List.suffix_cons c rest).isInfix, digits⟩

/-- A text is at least as long as its literals. -/
theorem length_le_of_mem_integers {ds : List Char} (inside : ds ∈ integers cs) :
    ds.length ≤ cs.length :=
  (infix_of_mem_integers inside).1.length_le

/-- No integer literal of the text has too many digits. -/
def IsShort (cs : List Char) : Prop := ∀ ds ∈ integers cs, ds.length ≤ maxDigits

/-! ### Places between tokens -/

/-- What is left of a text from a place on, in which no literal is found that the text does not
have. -/
structure Behind (rest cs : List Char) : Prop where
  suffix : rest <:+ cs
  integers : integers rest ⊆ integers cs

namespace Behind

theorem refl (cs : List Char) : Behind cs cs := ⟨List.suffix_refl cs, List.Subset.refl _⟩

theorem trans {ds : List Char} (first : Behind ds rest) (second : Behind rest cs) : Behind ds cs :=
  ⟨first.suffix.trans second.suffix, List.Subset.trans first.integers second.integers⟩

/-- A character that is no quotation mark and no digit is passed. -/
theorem cons {c : Char} (text : c ≠ '"') (digit : c.isDigit = false) : Behind rest (c :: rest) := by
  refine ⟨List.suffix_cons c rest, ?_⟩
  conv => rhs; rw [Json.integers]
  simp [text, digit]

theorem append {word : List Char} (plain : ∀ c ∈ word, c ≠ '"' ∧ c.isDigit = false) :
    Behind rest (word ++ rest) := by
  induction word with
  | nil => exact refl rest
  | cons c word ih =>
    obtain ⟨⟨text, digit⟩, plain⟩ := List.forall_mem_cons.mp plain
    exact (ih plain).trans (cons text digit)

theorem text (cs : List Char) : Behind (afterText cs) ('"' :: cs) := by
  refine ⟨(afterText_suffix cs).trans (List.suffix_cons '"' cs), ?_⟩
  conv => rhs; rw [Json.integers]
  simp

theorem number {c : Char} (digit : c.isDigit = true) :
    Behind (afterNumber (c :: rest)) (c :: rest) := by
  have text : c ≠ '"' := by
    rintro rfl
    cases digit
  refine ⟨afterNumber_suffix _, ?_⟩
  conv => rhs; rw [Json.integers]
  simp only [text, digit, if_true, if_false]
  split
  · exact List.subset_cons_self _ _
  · exact List.Subset.refl _

end Behind

/-- The digits at the front are a literal if neither fraction nor exponent follows. -/
theorem takeWhole_mem_integers {c : Char} (digit : c.isDigit = true)
    (integer : isInteger (c :: rest) = true) :
    (takeWhole (c :: rest)).1 ∈ integers (c :: rest) := by
  have text : c ≠ '"' := by
    rintro rfl
    cases digit
  rw [integers]
  simp only [text, digit, integer, if_true, if_false, List.mem_cons, true_or]

theorem isSpace_plain {c : Char} (blank : isSpace c = true) : c ≠ '"' ∧ c.isDigit = false := by
  simp only [isSpace, Bool.or_eq_true, beq_iff_eq] at blank
  rcases blank with ((rfl | rfl) | rfl) | rfl
  all_goals exact ⟨by decide, rfl⟩

theorem behind_skip (cs : List Char) : Behind (skip cs) cs := by
  have blank : ∀ c ∈ cs.takeWhile isSpace, c ≠ '"' ∧ c.isDigit = false :=
    fun c inside => isSpace_plain (List.mem_takeWhile_imp inside)
  have found : Behind (skip cs) (cs.takeWhile isSpace ++ skip cs) := Behind.append blank
  rwa [skip, List.takeWhile_append_dropWhile] at found

end CredoAssistant.Json
