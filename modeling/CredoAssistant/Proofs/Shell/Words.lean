import CredoAssistant.Shell.Words

/-!
Command lines split back into their words. A word that stands as it is holds nothing that splitting
stops at; one between apostrophes is taken character by character, and an apostrophe in it leaves
them for a pair of double marks and comes back. So the splitter is behind each quoted word in the
state that it has behind the word itself.
-/
namespace CredoAssistant.Shell

variable {word : Option (List Char)} {rest : List Char} {c : Char}

/-- A plain character is neither a separator nor a mark of quotation. -/
theorem bare_of_isPlain (plain : isPlain c = true) :
    isSeparator c = false ∧ c ≠ '\'' ∧ c ≠ '"' ∧ c ≠ '\\' := by
  have apart : ∀ d ∈ [' ', '\t', '\n', '\r', '\'', '"', '\\'], c ≠ d := by
    rintro d listed rfl
    have refused : [' ', '\t', '\n', '\r', '\'', '"', '\\'].all (!isPlain ·) := by decide
    have special := List.all_eq_true.mp refused c listed
    rw [plain] at special
    cases special
  have blank : isSeparator c = false := by simp [isSeparator, apart]
  exact ⟨blank, apart _ (by simp), apart _ (by simp), apart _ (by simp)⟩

/-- A character that splitting does not stop at goes into the word. -/
theorem splitFrom_bare_cons (separator : isSeparator c = false)
    (marks : c ≠ '\'' ∧ c ≠ '"' ∧ c ≠ '\\') :
    splitFrom .bare word (c :: rest) = splitFrom .bare (extend word c) rest := by
  rw [splitFrom.eq_def]
  simp only [separator, marks, Bool.false_eq_true, if_false]

theorem splitFrom_bare_blank :
    splitFrom .bare word (' ' :: rest) = (splitFrom .bare none rest).map (finish word) := by
  cases rest <;> rfl

theorem splitFrom_bare_apostrophe :
    splitFrom .bare word ('\'' :: rest) = splitFrom .single (some (word.getD [])) rest := by
  cases rest <;> rfl

theorem splitFrom_single_apostrophe :
    splitFrom .single word ('\'' :: rest) = splitFrom .bare word rest := rfl

theorem splitFrom_single_cons (other : c ≠ '\'') :
    splitFrom .single word (c :: rest) = splitFrom .single (extend word c) rest := by
  rw [splitFrom.eq_def]
  simp only [other, if_false]

theorem splitFrom_bare_mark :
    splitFrom .bare word ('"' :: rest) = splitFrom .double (some (word.getD [])) rest := by
  cases rest <;> rfl

theorem splitFrom_double_mark :
    splitFrom .double word ('"' :: rest) = splitFrom .bare word rest := by
  cases rest <;> rfl

theorem splitFrom_double_cons (other : c ≠ '"' ∧ c ≠ '\\') :
    splitFrom .double word (c :: rest) = splitFrom .double (extend word c) rest := by
  rw [splitFrom.eq_def]
  simp only [other, if_false]

/-- A plain word is taken as it stands. -/
theorem splitFrom_plain {cs acc : List Char} (plain : ∀ c ∈ cs, isPlain c = true) :
    splitFrom .bare (some acc) (cs ++ rest) = splitFrom .bare (some (cs.reverse ++ acc)) rest := by
  induction cs generalizing acc with
  | nil => rfl
  | cons c cs ih =>
    obtain ⟨separator, marks⟩ := bare_of_isPlain (plain c List.mem_cons_self)
    rw [List.cons_append, splitFrom_bare_cons separator marks, extend, Option.getD_some,
      ih fun d inside => plain d (List.mem_cons_of_mem c inside)]
    simp

/-- What stands for one character between apostrophes adds that character. -/
theorem splitFrom_quoteChar (acc : List Char) :
    splitFrom .single (some acc) (quoteChar c ++ rest) =
      splitFrom .single (some (c :: acc)) rest := by
  by_cases apostrophe : c = '\''
  · subst apostrophe
    -- Out of the apostrophes, the mark itself between double ones, and in again.
    calc splitFrom .single (some acc) (quoteChar '\'' ++ rest)
        = splitFrom .bare (some acc) ('"' :: '\'' :: '"' :: '\'' :: rest) :=
          splitFrom_single_apostrophe
      _ = splitFrom .double (some acc) ('\'' :: '"' :: '\'' :: rest) := splitFrom_bare_mark
      _ = splitFrom .double (some ('\'' :: acc)) ('"' :: '\'' :: rest) :=
          splitFrom_double_cons (by decide)
      _ = splitFrom .bare (some ('\'' :: acc)) ('\'' :: rest) := splitFrom_double_mark
      _ = splitFrom .single (some ('\'' :: acc)) rest := splitFrom_bare_apostrophe
  · rw [quoteChar, if_neg apostrophe, List.singleton_append, splitFrom_single_cons apostrophe]
    rfl

/-- Between apostrophes a word is taken whole. -/
theorem splitFrom_single {cs acc : List Char} :
    splitFrom .single (some acc) (cs.flatMap quoteChar ++ '\'' :: rest) =
      splitFrom .bare (some (cs.reverse ++ acc)) rest := by
  induction cs generalizing acc with
  | nil => exact splitFrom_single_apostrophe
  | cons c cs ih =>
    rw [List.flatMap_cons, List.append_assoc, splitFrom_quoteChar, ih]
    simp

/-- Behind a quoted word the splitter holds that word, the empty one too. -/
theorem splitFrom_quote (cs rest : List Char) :
    splitFrom .bare none (quote cs ++ rest) = splitFrom .bare (some cs.reverse) rest := by
  unfold quote
  split
  · rename_i needless
    simp only [Bool.and_eq_true, Bool.not_eq_true', List.all_eq_true] at needless
    obtain ⟨some, plain⟩ := needless
    cases cs with
    | nil => cases some
    | cons c cs =>
      obtain ⟨separator, marks⟩ := bare_of_isPlain (plain c List.mem_cons_self)
      rw [List.cons_append, splitFrom_bare_cons separator marks, extend, Option.getD_none,
        splitFrom_plain fun d inside => plain d (List.mem_cons_of_mem c inside)]
      simp
  · simp only [List.cons_append, List.append_assoc, List.nil_append]
    rw [splitFrom_bare_apostrophe, Option.getD_none, splitFrom_single, List.append_nil]

/-- Joined words are split at the blanks between them and nowhere else. -/
theorem splitFrom_joinWords (words : List (List Char)) :
    splitFrom .bare none (joinWords words) = .ok words := by
  induction words with
  | nil => rfl
  | cons w rest ih =>
    cases rest with
    | nil =>
      have whole := splitFrom_quote w []
      rw [List.append_nil] at whole
      rw [joinWords, whole, splitFrom.eq_def]
      simp only [finish, List.reverse_reverse]
    | cons v rest =>
      rw [joinWords, splitFrom_quote, splitFrom_bare_blank, ih]
      simp only [Except.map, finish, List.reverse_reverse]
      intro none
      cases none

/-- The command line of some words splits into exactly these words. -/
theorem split_join (words : List String) : split (join words) = .ok words := by
  rw [split, join, String.toList_ofList, splitFrom_joinWords]
  simp [Except.map, Function.comp_def]

/-- Different words have different command lines, so no word can pass for several or for none. -/
theorem join_injective : Function.Injective join := by
  intro ws vs same
  have split := split_join ws
  rw [same, split_join] at split
  exact (Except.ok.inj split).symm

/-- A process that is given a word has a command line, and it splits into what was given. -/
theorem split_of_commandLine? {words : List String} {line : String}
    (written : commandLine? words = some line) : split line = .ok words := by
  simp only [commandLine?, Option.ite_none_left_eq_some, Option.some.injEq] at written
  rw [← written.2, split_join]

theorem exists_commandLine? {words : List String} (given : words ≠ []) :
    ∃ line, commandLine? words = some line :=
  ⟨join words, if_neg (by simpa using given)⟩

end CredoAssistant.Shell
