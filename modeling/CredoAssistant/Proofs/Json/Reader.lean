import CredoAssistant.Proofs.Json.Literals

/-!
What the reader leaves of a text, and for which texts it gives up on an integer. Every part of the
reader goes on between two tokens behind its start, so an integer with too many digits is a literal
of the text itself.
-/
namespace CredoAssistant.Json

variable {α β : Type} {stack : Stack} {cs rest : List Char}

/-- The text holds `n` digits in a row, more than an integer may have. -/
def HasOversized (n : Nat) (cs : List Char) : Prop :=
  maxDigits < n ∧ ∃ ds, ds <:+: cs ∧ ds.length = n ∧ ∀ c ∈ ds, c.isDigit = true

/-- What a part of the reader that starts at `cs` comes to: it goes on behind, or gives up on an
integer literal that stands there, or on a bracket, or finds the text malformed. -/
def Reads (cs : List Char) : Except Failure (α × List Char) → Prop
  | .ok (_, rest) => Behind rest cs
  | .error (.oversizedInteger n) => maxDigits < n ∧ ∃ ds ∈ integers cs, ds.length = n
  | .error (.malformed _ _) => True
  | .error (.tooDeep _) => True

/-- A part that starts further behind reads the same. -/
theorem Reads.of_behind {r : Except Failure (α × List Char)} (reads : Reads rest r)
    (tail : Behind rest cs) : Reads cs r := by
  match r, reads with
  | .ok (_, left), reads => exact reads.trans tail
  | .error (.oversizedInteger n), found =>
    obtain ⟨many, ds, inside, length⟩ := found
    exact ⟨many, ds, tail.integers inside, length⟩
  | .error (.malformed _ _), _ => trivial
  | .error (.tooDeep _), _ => trivial

/-- One part after the other. -/
theorem Reads.bind {r : Except Failure (α × List Char)}
    {f : α × List Char → Except Failure (β × List Char)} (reads : Reads cs r)
    (next : ∀ a rest, Behind rest cs → Reads rest (f (a, rest))) : Reads cs (r >>= f) := by
  match r, reads with
  | .ok (a, rest), tail => exact (next a rest tail).of_behind tail
  | .error (.oversizedInteger n), found => exact found
  | .error (.malformed _ _), _ => trivial
  | .error (.tooDeep _), _ => trivial

/-- White space between parts is behind the first one. -/
theorem Reads.skip {r : Except Failure (α × List Char)} (reads : Reads (skip cs) r) : Reads cs r :=
  reads.of_behind (behind_skip cs)

/-- A mark behind white space is passed. -/
theorem behind_of_skip {c : Char} (found : Json.skip cs = c :: rest) (text : c ≠ '"')
    (digit : c.isDigit = false) : Behind rest cs := by
  have tail := behind_skip cs
  rw [found] at tail
  exact (Behind.cons text digit).trans tail

/-- The escape behind a high surrogate is malformed or not. -/
theorem partner?_malformed {cs : List Char} {f : Failure} (failed : partner? cs = .error f) :
    ∃ left, f = .malformed .unicodeEscape left := by
  unfold partner? at failed
  split at failed
  · split at failed
    · cases failed
    · split at failed
      · cases failed
        exact ⟨_, rfl⟩
      · cases failed
  · cases failed

/-- What the escape of a low surrogate looks like. -/
theorem partner?_eq_some {cs : List Char} {m : Nat} (found : partner? cs = .ok (some m)) :
    ∃ h₁ h₂ h₃ h₄ last, cs = '\\' :: 'u' :: h₁ :: h₂ :: h₃ :: h₄ :: last ∧
      unit? h₁ h₂ h₃ h₄ = some m ∧ isLowSurrogate m = true := by
  unfold partner? at found
  split at found
  · rename_i h₁ h₂ h₃ h₄ last
    split at found
    · cases found
    · split at found
      · cases found
      · rename_i n unit
        split at found
        · rename_i low
          cases found
          exact ⟨h₁, h₂, h₃, h₄, last, rfl, unit, low⟩
        · cases found
  · cases found

theorem hexDigit?_plain {c : Char} {n : Nat} (hex : hexDigit? c = some n) : c ≠ '"' ∧ c ≠ '\\' := by
  constructor
  · rintro rfl
    cases hex
  · rintro rfl
    cases hex

theorem afterText_plain {c : Char} (plain : c ≠ '"' ∧ c ≠ '\\') :
    afterText (c :: rest) = afterText rest := by
  rw [afterText.eq_def]
  split
  · rename_i nothing
    cases nothing
  · rename_i escape
    exact absurd (List.cons.inj escape).1 plain.2
  · rename_i other
    cases other
    rw [if_neg plain.1]

theorem afterText_unit {h₁ h₂ h₃ h₄ : Char} {n : Nat} (unit : unit? h₁ h₂ h₃ h₄ = some n) :
    afterText ('\\' :: 'u' :: h₁ :: h₂ :: h₃ :: h₄ :: rest) = afterText rest := by
  simp only [unit?, Option.bind_eq_bind, Option.bind_eq_some_iff] at unit
  obtain ⟨_, first, _, second, _, third, _, fourth, _⟩ := unit
  rw [afterText, afterText_plain (hexDigit?_plain first), afterText_plain (hexDigit?_plain second),
    afterText_plain (hexDigit?_plain third), afterText_plain (hexDigit?_plain fourth)]

/-- What the reader of a text that goes on with `cs` comes to: it ends behind the closing mark, or
finds the text malformed. -/
def Closes (cs : List Char) : Except Failure (List Char × List Char) → Prop
  | .ok (_, rest) => rest = afterText cs
  | .error (.malformed _ _) => True
  | .error _ => False

/-- The text goes on elsewhere, with the same closing mark. -/
theorem Closes.of_eq {r : Except Failure (List Char × List Char)} (closes : Closes rest r)
    (same : afterText cs = afterText rest) : Closes cs r := by
  match r, closes with
  | .ok (_, left), closes => exact closes.trans same.symm
  | .error (.malformed _ _), _ => trivial

theorem closes_text (opening : Nat) (acc cs : List Char) : Closes cs (readText opening acc cs) := by
  -- The digits of a unit are no marks, so passing them one by one leads to the same closing mark.
  fun_induction readText opening acc cs with
  | case2 acc rest => exact rfl
  | case6 acc h₁ h₂ h₃ h₄ tail n unit inside high f failed =>
    obtain ⟨left, rfl⟩ := partner?_malformed failed
    trivial
  | case7 acc h₁ h₂ h₃ h₄ tail n unit inside high alone other ih =>
    exact ih.of_eq (afterText_unit unit)
  | case8 acc h₁ h₂ h₃ h₄ n unit high m l₁ l₂ l₃ l₄ l₅ l₆ last other inside pair ih =>
    obtain ⟨_, _, _, _, _, same, low, _⟩ := partner?_eq_some pair
    cases same
    exact ih.of_eq ((afterText_unit unit).trans (afterText_unit low))
  | case10 acc h₁ h₂ h₃ h₄ tail n unit inside low other ih => exact ih.of_eq (afterText_unit unit)
  | case12 acc e more simple d escape other ih => exact ih.of_eq rfl
  | case15 acc c rest other plain printable ih => exact ih.of_eq (afterText_plain ⟨other, plain⟩)
  | _ => trivial

theorem reads_text (opening : Nat) (acc cs : List Char) :
    Reads ('"' :: cs) (readText opening acc cs) := by
  have closes := closes_text opening acc cs
  match readText opening acc cs, closes with
  | .ok (_, rest), closes =>
    obtain rfl : rest = afterText cs := closes
    exact Behind.text cs
  | .error (.malformed _ _), _ => trivial

/-- A number starts with a digit. -/
theorem isDigit_of_takeWhole (some : (takeWhole cs).1.isEmpty = false) :
    ∃ c rest, cs = c :: rest ∧ c.isDigit = true := by
  unfold takeWhole at some
  split at some
  · rename_i rest
    exact ⟨'0', rest, rfl, rfl⟩
  · cases cs with
    | nil => cases some
    | cons c rest =>
      refine ⟨c, rest, rfl, ?_⟩
      by_contra other
      rw [List.takeWhile_cons_of_neg other] at some
      cases some

theorem reads_number (cs : List Char) : Reads cs (readNumber cs) := by
  unfold readNumber
  split
  rename_i negative body signed
  -- The digits start behind the sign, so what is found in `body` is found in `cs`.
  have tail : Behind body cs := by
    split at signed
    · cases signed
      exact Behind.cons (by decide) rfl
    · cases signed
      exact Behind.refl _
  refine Reads.of_behind ?_ tail
  dsimp only
  split
  · trivial
  · rename_i some
    obtain ⟨c, rest, rfl, digit⟩ := isDigit_of_takeWhole (by simpa using some)
    split
    · rename_i integer
      split
      · rename_i many
        exact ⟨many, _, takeWhole_mem_integers digit integer, rfl⟩
      · exact Behind.number digit
    · exact Behind.number digit

theorem readWord?_eq_some {found : Value × List Char} (front : readWord? cs = some found) :
    ∃ word, (word, found.1) ∈ words ∧ cs = word ++ found.2 := by
  obtain ⟨⟨word, v⟩, known, matched⟩ := List.exists_of_findSome?_eq_some front
  simp only [Option.ite_none_right_eq_some, Option.some.injEq] at matched
  obtain ⟨starts, rfl⟩ := matched
  obtain ⟨rest, rfl⟩ := List.isPrefixOf_iff_prefix.mp starts
  exact ⟨word, known, by rw [List.drop_left]⟩

theorem words_plain : ∀ w ∈ words, ∀ c ∈ w.1, c ≠ '"' ∧ c.isDigit = false := by
  simp only [words, List.forall_mem_cons]
  simp

theorem readWord?_behind {found : Value × List Char} (front : readWord? cs = some found) :
    Behind found.2 cs := by
  obtain ⟨word, known, rfl⟩ := readWord?_eq_some front
  exact Behind.append (words_plain _ known)

/-- Inside of a bracket the reader goes on with less room. -/
theorem Reads.enter {b : Bracket} {room : Nat} {f : Nat → Except Failure (α × List Char)}
    (inside : ∀ room, Reads cs (f room)) : Reads cs (enter b room >>= f) := by
  cases room with
  | zero => trivial
  | succ room => exact inside room

theorem reads_items {fuel room : Nat} (value : ∀ cs, Reads cs (readValue fuel room cs))
    (items : ∀ acc cs, Reads cs (readItems fuel room acc cs)) (acc : List Value)
    (cs : List Char) : Reads cs (readItems (fuel + 1) room acc cs) := by
  rw [readItems]
  refine (value cs).bind fun v rest tail => ?_
  dsimp only
  split
  · rename_i left found
    exact behind_of_skip found (by decide) rfl
  · rename_i left found
    exact (items _ _).skip.of_behind (behind_of_skip found (by decide) rfl)
  · trivial

theorem reads_members {fuel room : Nat} (value : ∀ cs, Reads cs (readValue fuel room cs))
    (members : ∀ acc cs, Reads cs (readMembers fuel room acc cs)) (acc : List (String × Value))
    (cs : List Char) : Reads cs (readMembers (fuel + 1) room acc cs) := by
  rw [readMembers.eq_def]
  dsimp only
  split
  · rename_i rest
    refine (reads_text _ _ rest).bind fun k left tail => ?_
    dsimp only
    split
    · rename_i colon found
      refine Reads.of_behind (Reads.skip ?_) (behind_of_skip found (by decide) rfl)
      refine (value (skip colon)).bind fun v rest tail => ?_
      dsimp only
      split
      · rename_i last found
        exact behind_of_skip found (by decide) rfl
      · rename_i last found
        exact (members _ _).skip.of_behind (behind_of_skip found (by decide) rfl)
      · trivial
    · trivial
  · trivial

theorem reads_value {fuel room : Nat}
    (items : ∀ room acc cs, Reads cs (readItems fuel room acc cs))
    (members : ∀ room acc cs, Reads cs (readMembers fuel room acc cs)) (cs : List Char) :
    Reads cs (readValue (fuel + 1) room cs) := by
  rw [readValue.eq_def]
  dsimp only
  split
  · rename_i rest
    exact (reads_text _ _ rest).bind fun s left tail => Behind.refl left
  · rename_i rest
    refine Reads.of_behind (Reads.enter fun room => ?_) (Behind.cons (by decide) rfl)
    split
    · rename_i left found
      exact behind_of_skip found (by decide) rfl
    · exact Reads.bind (members room [] (skip rest)).skip fun ms left tail => Behind.refl left
  · rename_i rest
    refine Reads.of_behind (Reads.enter fun room => ?_) (Behind.cons (by decide) rfl)
    split
    · rename_i left found
      exact behind_of_skip found (by decide) rfl
    · exact Reads.bind (items room [] (skip rest)).skip fun vs left tail => Behind.refl left
  · split
    · rename_i found front
      exact readWord?_behind front
    · exact reads_number cs

/-- The three readers of nested values, by the fuel they share. -/
theorem reads_nested (fuel : Nat) :
    (∀ room cs, Reads cs (readValue fuel room cs)) ∧
      (∀ room acc cs, Reads cs (readItems fuel room acc cs)) ∧
      ∀ room acc cs, Reads cs (readMembers fuel room acc cs) := by
  induction fuel with
  | zero =>
    refine ⟨fun room cs => ?_, fun room acc cs => ?_, fun room acc cs => ?_⟩
    · simp only [readValue, Reads]
    · simp only [readItems, Reads]
    · simp only [readMembers, Reads]
  | succ fuel ih =>
    obtain ⟨value, items, members⟩ := ih
    exact ⟨fun room => reads_value items members,
      fun room => reads_items (value room) (items room),
      fun room => reads_members (value room) (members room)⟩

/-- A text that is read is a value with nothing but white space around it. -/
theorem readValue_of_read {v : Value} (decoded : read stack cs = .ok v) :
    ∃ rest, readValue (2 * cs.length + 2) stack.levels (skip cs) = .ok (v, rest) ∧
      skip rest = [] := by
  unfold read at decoded
  split at decoded
  · cases decoded
  · cases found : readValue (2 * cs.length + 2) stack.levels (skip cs) with
    | error f =>
      rw [found] at decoded
      cases decoded
    | ok result =>
      obtain ⟨w, rest⟩ := result
      rw [found] at decoded
      simp only [bind, Except.bind] at decoded
      split at decoded
      · rename_i last
        cases decoded
        exact ⟨rest, rfl, last⟩
      · cases decoded

/-- A text is refused for an integer only if one of its literals has that many digits. -/
theorem integer_of_read {n : Nat} (failed : read stack cs = .error (.oversizedInteger n)) :
    maxDigits < n ∧ ∃ ds ∈ integers cs, ds.length = n := by
  unfold read at failed
  split at failed
  · cases failed
  · have value := ((reads_nested (2 * cs.length + 2)).1 stack.levels (skip cs)).skip
    generalize readValue (2 * cs.length + 2) stack.levels (skip cs) = result at value failed
    match result, value with
    | .ok (v, rest), _ =>
      simp only [bind, Except.bind] at failed
      split at failed
      · cases failed
      · cases failed
    | .error f, value =>
      cases failed
      exact value

theorem hasOversized_of_read {n : Nat} (failed : read stack cs = .error (.oversizedInteger n)) :
    HasOversized n cs := by
  obtain ⟨many, ds, inside, length⟩ := integer_of_read failed
  obtain ⟨found, digits⟩ := infix_of_mem_integers inside
  exact ⟨many, ds, found, length, digits⟩

/-- A text without long integer literals is read or malformed. -/
theorem read_ne_oversized (short : IsShort cs) (n : Nat) :
    read stack cs ≠ .error (.oversizedInteger n) := by
  intro failed
  obtain ⟨many, ds, inside, rfl⟩ := integer_of_read failed
  exact Nat.not_lt.mpr (short ds inside) many

/-- A character that is no digit does not stand in front of digits. -/
theorem ne_of_isDigit {c e : Char} (digit : c.isDigit = true) (other : e.isDigit = false) :
    c ≠ e := by
  rintro rfl
  rw [digit] at other
  cases other

end CredoAssistant.Json
