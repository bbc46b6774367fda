import CredoAssistant.Proofs.Json.Reader
import CredoAssistant.Toml.Scalar
import Mathlib.Tactic.SplitIfs

/-!
How deep the brackets of a document nest. Texts and comments do not count; where a text ends is for
the readers of texts to say. What stands between brackets, texts and comments is passed without a
change of depth.
-/
namespace CredoAssistant.Toml

variable {cs rest : List Char}

/-! ### Texts -/

/-- A text that is read ends further on; one that is not is malformed. -/
def Ends (cs : List Char) : Except Failure (List Char × List Char) → Prop
  | .ok (_, rest) => rest <:+ cs
  | .error (.malformed _ _) => True
  | .error _ => False

/-- A text that starts further behind ends there too. -/
theorem Ends.behind {r : Except Failure (List Char × List Char)} (ends : Ends rest r)
    (tail : rest <:+ cs) : Ends cs r := by
  match r, ends with
  | .ok (_, left), ends => exact List.IsSuffix.trans ends tail
  | .error (.malformed _ _), _ => trivial

theorem skipBlanks_suffix (cs : List Char) : skipBlanks cs <:+ cs := List.dropWhile_suffix isBlank

theorem splitAtMark_suffix {mark before cs front rest : List Char}
    (found : splitAtMark mark before cs = some (front, rest)) : rest <:+ cs := by
  induction cs generalizing before with
  | nil =>
    simp only [splitAtMark] at found
    split at found
    · cases found
      exact List.suffix_refl []
    · cases found
  | cons c tail ih =>
    rw [splitAtMark] at found
    split at found
    · cases found
      exact List.suffix_refl _
    · exact (ih found).trans (List.suffix_cons c tail)

theorem ends_until (mark : String) (refused : Char → Bool) (cs : List Char) :
    Ends cs (takeUntil mark refused cs) := by
  unfold takeUntil
  split
  · trivial
  · rename_i front rest found
    split
    · trivial
    · exact splitAtMark_suffix found

theorem ends_hexChar (n : Nat) (cs : List Char) : Ends cs (readHexChar n cs) := by
  unfold readHexChar
  dsimp only
  split_ifs
  · exact List.drop_suffix n cs
  · trivial
  · trivial

theorem ends_escape (multiline : Bool) (cs : List Char) : Ends cs (readEscape multiline cs) := by
  unfold readEscape
  split
  · trivial
  · rename_i c rest
    have behind : rest <:+ c :: rest := List.suffix_cons c rest
    split_ifs
    · exact (List.dropWhile_suffix _).trans behind
    · have blanks := skipBlanks_suffix rest
      split
      · exact List.nil_suffix
      · rename_i tail found
        rw [found] at blanks
        exact (List.dropWhile_suffix _).trans ((List.suffix_cons '\n' tail).trans
          (blanks.trans behind))
      · trivial
    · exact (ends_hexChar 4 rest).behind behind
    · exact (ends_hexChar 8 rest).behind behind
    · split
      · exact behind
      · trivial

theorem ends_basic (multiline : Bool) (fuel : Nat) (acc cs : List Char) :
    Ends cs (readBasic multiline fuel acc cs) := by
  induction fuel generalizing acc cs with
  | zero => trivial
  | succ fuel ih =>
    rw [readBasic.eq_def]
    dsimp only
    split
    · trivial
    · rename_i rest
      have behind : rest <:+ '"' :: rest := List.suffix_cons '"' rest
      split_ifs
      · split
        · rename_i tail
          exact (List.suffix_append ['"', '"'] tail).trans behind
        · exact (ih _ rest).behind behind
      · exact behind
    · rename_i rest
      have behind : rest <:+ '\\' :: rest := List.suffix_cons '\\' rest
      have escape := (ends_escape multiline rest).behind behind
      generalize readEscape multiline rest = r at escape ⊢
      match r, escape with
      | .error (.malformed _ _), failed => exact failed
      | .ok (piece, tail), left => exact (ih _ tail).behind left
    · rename_i c rest _ _
      split_ifs
      · trivial
      · exact (ih _ rest).behind (List.suffix_cons c rest)
      · trivial
      · exact (ih _ rest).behind (List.suffix_cons c rest)

theorem takeExtraMarks_suffix (mark : Char) (s cs : List Char) :
    (takeExtraMarks mark s cs).2 <:+ cs := by
  unfold takeExtraMarks
  split
  · rename_i a b rest
    split_ifs
    · exact List.suffix_append [a, b] rest
    · exact List.suffix_cons a (b :: rest)
    · exact List.suffix_refl _
  · split_ifs
    · exact List.nil_suffix
    · exact List.suffix_refl _
  · exact List.suffix_refl _

theorem dropNewline_suffix (cs : List Char) : dropNewline cs <:+ cs := by
  unfold dropNewline
  split
  · exact List.suffix_cons '\n' _
  · exact List.suffix_refl _

theorem ends_lineText (cs : List Char) : Ends cs (readLineText cs) := ends_basic ..

theorem ends_literal (cs : List Char) : Ends cs (readLiteral cs) := by
  have ends := ends_until "'" isControl cs
  unfold readLiteral
  generalize takeUntil "'" isControl cs = r at ends ⊢
  match r, ends with
  | .error (.malformed _ _), failed => exact failed
  | .ok (s, rest), left => exact (List.drop_suffix 1 rest).trans left

theorem ends_longText (cs : List Char) : Ends cs (readLongText cs) := by
  have ends := (ends_basic true ((dropNewline cs).length + 1) [] (dropNewline cs)).behind
    (dropNewline_suffix cs)
  unfold readLongText
  dsimp only
  generalize readBasic true ((dropNewline cs).length + 1) [] (dropNewline cs) = r at ends ⊢
  match r, ends with
  | .error (.malformed _ _), failed => exact failed
  | .ok (s, rest), left => exact (takeExtraMarks_suffix '"' s rest).trans left

theorem ends_longLiteral (cs : List Char) : Ends cs (readLongLiteral cs) := by
  have ends := (ends_until "'''" isInnerControl (dropNewline cs)).behind (dropNewline_suffix cs)
  unfold readLongLiteral
  generalize takeUntil "'''" isInnerControl (dropNewline cs) = r at ends ⊢
  match r, ends with
  | .error (.malformed _ _), failed => exact failed
  | .ok (s, rest), left =>
    exact (takeExtraMarks_suffix '\'' s (rest.drop 3)).trans ((List.drop_suffix 3 rest).trans left)

/-- What is left behind a text; nothing, where no text ends. -/
def leftover : Except Failure (List Char × List Char) → List Char
  | .ok (_, rest) => rest
  | .error _ => []

theorem Ends.leftover_suffix {r : Except Failure (List Char × List Char)} (ends : Ends cs r) :
    leftover r <:+ cs := by
  match r, ends with
  | .ok (_, rest), ends => exact ends
  | .error (.malformed _ _), _ => exact List.nil_suffix

/-- What is left behind the text that starts at a quotation mark, which may be a triple one. -/
def afterText : List Char → List Char
  | '"' :: '"' :: '"' :: rest => leftover (readLongText rest)
  | '"' :: rest => leftover (readLineText rest)
  | '\'' :: '\'' :: '\'' :: rest => leftover (readLongLiteral rest)
  | '\'' :: rest => leftover (readLiteral rest)
  | cs => cs.tail

theorem afterText_suffix (c : Char) (rest : List Char) : afterText (c :: rest) <:+ rest := by
  unfold afterText
  split
  · rename_i tail same
    cases same
    exact (ends_longText tail).leftover_suffix.trans (List.suffix_append ['"', '"'] tail)
  · rename_i same
    cases same
    exact (ends_lineText rest).leftover_suffix
  · rename_i tail same
    cases same
    exact (ends_longLiteral tail).leftover_suffix.trans (List.suffix_append ['\'', '\''] tail)
  · rename_i same
    cases same
    exact (ends_literal rest).leftover_suffix
  · exact List.suffix_refl rest

/-- Where no text in triple marks starts, a text on one line is passed. -/
theorem afterText_lineText (rest : List Char) :
    afterText ('"' :: rest) = leftover (readLineText rest) ∨
      ∃ left, readLineText rest = .ok ([], '"' :: left) := by
  by_cases long : ∃ left, rest = '"' :: '"' :: left
  · obtain ⟨left, rfl⟩ := long
    exact .inr ⟨left, rfl⟩
  · exact .inl (afterText.eq_2 rest fun left same => long ⟨left, same⟩)

theorem afterText_literal (rest : List Char) :
    afterText ('\'' :: rest) = leftover (readLiteral rest) ∨
      ∃ left, readLiteral rest = .ok ([], '\'' :: left) := by
  by_cases long : ∃ left, rest = '\'' :: '\'' :: left
  · obtain ⟨left, rfl⟩ := long
    exact .inr ⟨left, by simp [readLiteral, takeUntil, splitAtMark]⟩
  · exact .inl (afterText.eq_4 rest fun left same => long ⟨left, same⟩)

/-! ### Brackets -/

/-- The greatest number of brackets that a document leaves open at a place in it. In texts and
comments nothing counts. -/
def nesting : List Char → Nat
  | [] => 0
  | c :: rest =>
    if c = '"' ∨ c = '\'' then nesting (afterText (c :: rest))
    else if c = '#' then nesting (rest.dropWhile (· != '\n'))
    else if c = '[' ∨ c = '{' then nesting rest + 1
    else if c = ']' ∨ c = '}' then nesting rest - 1
    else nesting rest
termination_by cs => cs.length
decreasing_by
  · exact Nat.lt_succ_of_le (afterText_suffix c rest).length_le
  · exact Nat.lt_succ_of_le (List.dropWhile_suffix _).length_le
  · exact Nat.lt_succ_self _
  · exact Nat.lt_succ_self _
  · exact Nat.lt_succ_self _

theorem nesting_cons (c : Char) (rest : List Char) : nesting (c :: rest) =
    if c = '"' ∨ c = '\'' then nesting (afterText (c :: rest))
    else if c = '#' then nesting (rest.dropWhile (· != '\n'))
    else if c = '[' ∨ c = '{' then nesting rest + 1
    else if c = ']' ∨ c = '}' then nesting rest - 1
    else nesting rest := by
  rw [nesting]

/-- The characters that nest, quote or comment. -/
def marks : List Char := ['"', '\'', '#', '[', '{', ']', '}']

/-- No mark is of a class that has no mark in it. -/
theorem not_mem_marks {p : Char → Bool} (apart : (marks.all fun c => !p c) = true) {c : Char}
    (member : p c = true) : c ∉ marks := fun inside => by
  have other := List.all_eq_true.mp apart c inside
  rw [member] at other
  cases other

theorem nesting_flat {c : Char} (flat : c ∉ marks) : nesting (c :: rest) = nesting rest := by
  simp only [marks, List.mem_cons, List.not_mem_nil, or_false, not_or] at flat
  obtain ⟨text, literal, comment, list, object, endList, endObject⟩ := flat
  simp [nesting_cons, text, literal, comment, list, object, endList, endObject]

@[simp] theorem nesting_list : nesting ('[' :: rest) = nesting rest + 1 := by simp [nesting_cons]

@[simp] theorem nesting_object : nesting ('{' :: rest) = nesting rest + 1 := by simp [nesting_cons]

theorem nesting_text {c : Char} (mark : c = '"' ∨ c = '\'') :
    nesting (c :: rest) = nesting (afterText (c :: rest)) := by
  rw [nesting_cons, if_pos mark]

/-- The reader goes on at an end of the text, behind so many brackets that were closed on the way
but not opened. -/
structure Passes (closed : Nat) (cs rest : List Char) : Prop where
  tail : rest <:+ cs
  nests : nesting rest ≤ nesting cs + closed

namespace Passes

variable {closed : Nat} {mid : List Char} {c : Char}

theorem refl (cs : List Char) : Passes 0 cs cs := ⟨List.suffix_refl cs, Nat.le_refl _⟩

theorem trans (first : Passes 0 cs mid) (later : Passes closed mid rest) : Passes closed cs rest :=
  ⟨later.tail.trans first.tail, later.nests.trans (Nat.add_le_add_right first.nests closed)⟩

theorem flat (flat : c ∉ marks) (rest : List Char) : Passes 0 (c :: rest) rest :=
  ⟨List.suffix_cons c rest, Nat.le_of_eq (nesting_flat flat).symm⟩

theorem flats (word : List Char) (flats : ∀ c ∈ word, c ∉ marks) (rest : List Char) :
    Passes 0 (word ++ rest) rest := by
  induction word with
  | nil => exact .refl rest
  | cons c word ih =>
    obtain ⟨first, others⟩ := List.forall_mem_cons.mp flats
    exact (flat first _).trans (ih others)

/-- Characters of a class without marks. -/
theorem dropWhile {p : Char → Bool} (apart : (marks.all fun c => !p c) = true) (cs : List Char) :
    Passes 0 cs (cs.dropWhile p) := by
  have word : ∀ c ∈ cs.takeWhile p, c ∉ marks := fun _ taken =>
    not_mem_marks apart (List.mem_takeWhile_imp taken)
  have passes := flats _ word (cs.dropWhile p)
  rwa [List.takeWhile_append_dropWhile] at passes

theorem bracket (rest : List Char) : Passes 0 ('[' :: rest) rest :=
  ⟨List.suffix_cons '[' rest, by rw [nesting_list]; omega⟩

theorem endList (rest : List Char) : Passes 1 (']' :: rest) rest :=
  ⟨List.suffix_cons ']' rest, by simp [nesting_cons]; omega⟩

theorem endLists (rest : List Char) : Passes 2 (']' :: ']' :: rest) rest :=
  ⟨List.suffix_append [']', ']'] rest, by simp [nesting_cons]; omega⟩

theorem endObject (rest : List Char) : Passes 1 ('}' :: rest) rest :=
  ⟨List.suffix_cons '}' rest, by simp [nesting_cons]; omega⟩

/-- What is closed inside of a bracket does not count outside. -/
theorem enclose {left : List Char} (opened : nesting cs = nesting rest + 1) (tail : rest <:+ cs)
    (inside : Passes (closed + 1) rest left) : Passes closed cs left :=
  ⟨inside.tail.trans tail, by have := inside.nests; omega⟩

theorem comment (body : List Char) : Passes 0 ('#' :: body) (body.dropWhile (· != '\n')) :=
  ⟨(List.dropWhile_suffix _).trans (List.suffix_cons '#' body), by simp [nesting_cons]⟩

end Passes

end CredoAssistant.Toml
