import CredoAssistant.Proofs.Json.Nesting

/-!
What the grammar allows is read. Wherever the text of a value stands, the reader comes to that value
and goes on behind it, unless it gives up on a bracket that it has no room for or on an integer that
is too long. The induction is on the fuel, of which the length of the text is enough; what stands
behind a value must not go on with a number.
-/
namespace CredoAssistant.Json

variable {α β : Type} {stack : Stack} {fuel opening room : Nat} {cs rest : List Char}
  {fits : List Char → Prop}

/-! ### Texts -/

section

variable {acc : List Char} {c : Char}

/-- A character that is no mark stands for itself. -/
theorem readText_plain (quote : c ≠ '"') (backslash : c ≠ '\\') (printable : 0x20 ≤ c.toNat) :
    readText opening acc (c :: rest) = readText opening (c :: acc) rest := by
  rw [readText.eq_def]
  simp only [quote, backslash, Nat.not_lt.mpr printable, if_false]

theorem readText_escape {e : Char} (known : simpleEscape? e = some c) :
    readText opening acc ('\\' :: e :: rest) = readText opening (c :: acc) rest := by
  have letter : e ≠ 'u' := by
    rintro rfl
    cases known
  rw [readText.eq_def]
  simp only [letter, known, Char.reduceEq, if_false, if_true]

/-- A unit without a partner is read as its character. -/
theorem readText_unit {h₁ h₂ h₃ h₄ : Char} {n : Nat} (digits : unit? h₁ h₂ h₃ h₄ = some n)
    (alone : isHighSurrogate n = true → partner? rest = .ok none) (more : rest ≠ []) :
    readText opening acc ('\\' :: 'u' :: h₁ :: h₂ :: h₃ :: h₄ :: rest) =
      readText opening (unitChar n :: acc) rest := by
  have inside : rest.isEmpty = false := by simpa using more
  rw [readText]
  simp only [digits, inside, Char.reduceEq, if_false, if_true, Bool.false_eq_true]
  split
  · rename_i high
    rw [alone high]
  · rfl

/-- Two units that are the halves of a pair are read as its character. -/
theorem readText_pair {h₁ h₂ h₃ h₄ l₁ l₂ l₃ l₄ : Char} {high low : Nat}
    (first : unit? h₁ h₂ h₃ h₄ = some high) (upper : isHighSurrogate high = true)
    (second : unit? l₁ l₂ l₃ l₄ = some low) (lower : isLowSurrogate low = true)
    (more : rest ≠ []) :
    readText opening acc ('\\' :: 'u' :: h₁ :: h₂ :: h₃ :: h₄ ::
        '\\' :: 'u' :: l₁ :: l₂ :: l₃ :: l₄ :: rest) =
      readText opening (pairChar high low :: acc) rest := by
  have inside : rest.isEmpty = false := by simpa using more
  rw [readText]
  simp only [first, second, upper, lower, partner?, inside, List.isEmpty_cons, Char.reduceEq,
    if_false, if_true, Bool.false_eq_true]

end

theorem isLowSurrogate_of_high {n : Nat} (high : isHighSurrogate n = true) :
    isLowSurrogate n = false := by
  simp only [isHighSurrogate, Bool.and_eq_true, decide_eq_true_eq] at high
  simp only [isLowSurrogate, Bool.and_eq_false_iff, decide_eq_false_iff_not]
  omega

/-- A text whose front is no low surrogate has no partner for the unit before. -/
theorem partner?_alone {s : List Char} (spelled : Spells cs s) (alone : ∀ m, ¬ FrontsLow m cs) :
    partner? (cs ++ '"' :: rest) = .ok none := by
  cases spelled with
  | done => rfl
  | plain quote backslash printable later =>
    unfold partner?
    split
    · rename_i same
      exact absurd (List.cons.inj same).1 backslash
    · rfl
  | @escape e d cs s known later =>
    have letter : e ≠ 'u' := by
      rintro rfl
      cases known
    unfold partner?
    split
    · rename_i same
      exact absurd (List.cons.inj (List.cons.inj same).2).1 letter
    · rfl
  -- The first escape is a unit itself, and a low one would stand in front.
  | @unit h₁ h₂ h₃ h₄ n cs s digits single later =>
    have other : ¬ isLowSurrogate n = true := fun low =>
      alone n ⟨h₁, h₂, h₃, h₄, cs, rfl, digits, low⟩
    simp [partner?, digits, other]
  | pair first upper second lower later =>
    simp [partner?, first, isLowSurrogate_of_high upper]

/-- What is spelled between two marks is read. -/
theorem readText_spells {s : List Char} (spelled : Spells cs s) (acc : List Char) :
    readText opening acc (cs ++ '"' :: rest) = .ok (acc.reverse ++ s, rest) := by
  have more (body : List Char) : body ++ '"' :: rest ≠ [] := by simp
  induction spelled generalizing acc with
  | done =>
    rw [List.nil_append, readText.eq_def, List.append_nil]
    rfl
  | plain quote backslash printable later ih =>
    rw [List.cons_append, readText_plain quote backslash printable, ih, List.reverse_cons,
      List.append_assoc, List.singleton_append]
  | escape known later ih =>
    rw [List.cons_append, List.cons_append, readText_escape known, ih, List.reverse_cons,
      List.append_assoc, List.singleton_append]
  | unit digits alone later ih =>
    simp only [List.cons_append]
    rw [readText_unit digits (fun high => partner?_alone later (alone high)) (more _), ih,
      List.reverse_cons, List.append_assoc, List.singleton_append]
  | pair first upper second lower later ih =>
    simp only [List.cons_append]
    rw [readText_pair first upper second lower (more _), ih, List.reverse_cons, List.append_assoc,
      List.singleton_append]

/-! ### Numbers -/

/-- The text does not continue a number. -/
def Stops : List Char → Prop
  | [] => True
  | c :: _ => c.isDigit = false ∧ c ≠ '.' ∧ c ≠ 'e' ∧ c ≠ 'E'

/-- Digits are taken up to a character that is none. -/
theorem takeWhile_digits {ds : List Char} (digits : ∀ c ∈ ds, c.isDigit = true)
    (ends : ∀ c ∈ rest.head?, c.isDigit = false) :
    (ds ++ rest).takeWhile Char.isDigit = ds ∧ (ds ++ rest).dropWhile Char.isDigit = rest := by
  rw [List.takeWhile_append_of_pos digits, List.dropWhile_append_of_pos digits]
  cases rest with
  | nil => exact ⟨List.append_nil ds, rfl⟩
  | cons c rest => simp [ends c rfl]

theorem takeWhole_whole {ds : List Char} (whole : Whole ds)
    (ends : ∀ c ∈ rest.head?, c.isDigit = false) : takeWhole (ds ++ rest) = (ds, rest) := by
  cases whole with
  | zero => rfl
  | digits leading digits =>
    obtain ⟨taken, left⟩ := takeWhile_digits digits ends
    unfold takeWhole
    split
    · rename_i same
      exact absurd (List.cons.inj same).1 leading
    · rw [taken, left]

theorem takeFraction_fraction {point ds : List Char} (pointed : Fraction point ds)
    (ends : ∀ c ∈ rest.head?, c.isDigit = false ∧ c ≠ '.') :
    takeFraction (point ++ rest) = (ds, rest) := by
  cases pointed with
  | none =>
    unfold takeFraction
    split
    · rename_i same
      rw [List.nil_append] at same
      exact absurd rfl (ends '.' (by rw [same]; rfl)).2
    · rfl
  | point nonempty digits =>
    obtain ⟨taken, left⟩ := takeWhile_digits digits fun c front => (ends c front).1
    cases ds with
    | nil => exact absurd rfl nonempty
    | cons d ds =>
      have digit := digits d List.mem_cons_self
      rw [List.cons_append, List.takeWhile_cons_of_pos digit, List.cons.injEq] at taken
      rw [List.cons_append, List.dropWhile_cons_of_pos digit] at left
      simp only [List.cons_append, takeFraction, digit, if_true, taken.2, left]

/-- A sign is taken off what starts with a digit. -/
theorem takeSign_sign {sign : List Char} {below : Bool} {c : Char} (signed : Sign sign below)
    (digit : c.isDigit = true) :
    Binary64.takeSign (sign ++ c :: rest) = (below, c :: rest) := by
  cases signed with
  | none =>
    unfold Binary64.takeSign
    split
    · rename_i same
      cases same
      cases digit
    · rename_i same
      cases same
      cases digit
    · rfl
  | plus => rfl
  | minus => rfl

theorem takeExponent_exponent {mark : List Char} {power : Option Int}
    (marked : Exponent mark power) (stops : Stops rest) :
    takeExponent (mark ++ rest) = (power, rest) := by
  cases marked with
  | none =>
    cases rest with
    | nil => rfl
    | cons c rest => simp [takeExponent, stops.2.2]
  | @power mark sign ds below marks signed nonempty digits =>
    have ends : ∀ c ∈ rest.head?, c.isDigit = false := by
      cases rest with
      | nil => nofun
      | cons c rest =>
        rintro _ ⟨⟩
        exact stops.1
    obtain ⟨taken, left⟩ := takeWhile_digits digits ends
    cases ds with
    | nil => exact absurd rfl nonempty
    | cons d ds =>
      have digit := digits d List.mem_cons_self
      rw [List.cons_append] at taken left
      simp only [List.cons_append, List.append_assoc, takeExponent, marks, if_true,
        takeSign_sign signed digit, taken, left, List.isEmpty_cons, Bool.false_eq_true, if_false]

/-- What stands behind the digits of a number goes on with no digit. -/
theorem head_exponent {mark : List Char} {power : Option Int} (marked : Exponent mark power)
    (stops : Stops rest) : ∀ c ∈ (mark ++ rest).head?, c.isDigit = false ∧ c ≠ '.' := by
  cases marked with
  | none =>
    cases rest with
    | nil => nofun
    | cons c rest =>
      rintro _ ⟨⟩
      exact ⟨stops.1, stops.2.1⟩
  | power marks signed nonempty digits =>
    rintro _ ⟨⟩
    rcases marks with rfl | rfl
    · exact ⟨rfl, by decide⟩
    · exact ⟨rfl, by decide⟩

theorem head_fraction {point ds : List Char} (pointed : Fraction point ds)
    (ends : ∀ c ∈ rest.head?, c.isDigit = false) :
    ∀ c ∈ (point ++ rest).head?, c.isDigit = false := by
  cases pointed with
  | none => exact ends
  | point nonempty digits =>
    rintro _ ⟨⟩
    rfl

theorem Whole.front {ds : List Char} (whole : Whole ds) :
    ∃ c tail, ds = c :: tail ∧ c.isDigit = true := by
  cases whole with
  | zero => exact ⟨'0', [], rfl, rfl⟩
  | digits leading digits => exact ⟨_, _, rfl, digits _ List.mem_cons_self⟩

/-- The parts of a number are found one by one. -/
theorem readNumber_parts (negative : Bool) {ds point fraction mark : List Char}
    {power : Option Int} (whole : Whole ds) (pointed : Fraction point fraction)
    (marked : Exponent mark power) (stops : Stops rest) :
    readNumber (minus negative ++ (ds ++ (point ++ (mark ++ rest)))) =
      if fraction = [] ∧ power = none then
        if maxDigits < ds.length then .error (.oversizedInteger ds.length)
        else .ok (.int (if negative then -(Decimal.value ds : Int) else (Decimal.value ds : Int)),
          rest)
      else
        .ok (.float (Binary64.ofDecimal negative (Decimal.value (ds ++ fraction))
          (power.getD 0 - fraction.length)), rest) := by
  have exponentHead := head_exponent marked stops
  have first := takeWhole_whole whole
    (head_fraction pointed fun c front => (exponentHead c front).1)
  have second := takeFraction_fraction pointed exponentHead
  have third := takeExponent_exponent marked stops
  obtain ⟨c, tail, front, digit⟩ := whole.front
  unfold readNumber
  split
  rename_i sign body signed
  -- A number without a sign starts with a digit, so a minus in front is the sign.
  obtain ⟨rfl, rfl⟩ : negative = sign ∧ ds ++ (point ++ (mark ++ rest)) = body := by
    split at signed
    · rename_i same
      cases negative with
      | true =>
        cases same
        cases signed
        exact ⟨rfl, rfl⟩
      | false =>
        rw [front] at same
        cases same
        cases digit
    · rename_i other
      cases negative with
      | true => exact absurd rfl (other _)
      | false =>
        cases signed
        exact ⟨rfl, rfl⟩
  have nonempty : ds.isEmpty = false := by rw [front]; rfl
  simp only [first, second, third, nonempty, Bool.false_eq_true, if_false, Bool.and_eq_true,
    List.isEmpty_iff, Option.isNone_iff_eq_none]

/-! ### Values -/

/-- A part of the reader comes to `x`, or gives up on a bracket, or on an integer although the
grammar lets integers be too long. -/
def Reaches (fits : List Char → Prop) (r : Except Failure α) (x : α) : Prop :=
  r = .ok x ∨ (∃ b, r = .error (.tooDeep b)) ∨
    (∃ n, r = .error (.oversizedInteger n)) ∧ ∃ ds, fits ds ∧ maxDigits < ds.length

/-- One part after the other. -/
theorem Reaches.bind {r : Except Failure α} {f : α → Except Failure β} {x : α} {y : β}
    (reaches : Reaches fits r x) (next : Reaches fits (f x) y) : Reaches fits (r >>= f) y := by
  rcases reaches with rfl | ⟨b, rfl⟩ | ⟨⟨n, rfl⟩, long⟩
  · exact next
  · exact .inr (.inl ⟨b, rfl⟩)
  · exact .inr (.inr ⟨⟨n, rfl⟩, long⟩)

theorem Reaches.enter {b : Bracket} {f : Nat → Except Failure α} {x : α}
    (inside : ∀ room, Reaches fits (f room) x) : Reaches fits (enter b room >>= f) x := by
  cases room with
  | zero => exact .inr (.inl ⟨b, rfl⟩)
  | succ room => exact inside room

theorem reaches_integer {negative : Bool} {ds : List Char} (whole : Whole ds) (fit : fits ds)
    (stops : Stops rest) :
    Reaches fits (readNumber (minus negative ++ (ds ++ rest)))
      (.int (if negative then -(Decimal.value ds : Int) else (Decimal.value ds : Int)), rest) := by
  have read := readNumber_parts negative whole .none .none stops
  rw [if_pos ⟨rfl, rfl⟩] at read
  simp only [List.nil_append] at read
  rw [read]
  split
  · rename_i long
    exact .inr (.inr ⟨⟨_, rfl⟩, ds, fit, long⟩)
  · exact .inl rfl

/-! ### White space and first characters -/

theorem skip_append {blanks : List Char} (space : Blank blanks) : skip (blanks ++ cs) = skip cs :=
  List.dropWhile_append_of_pos space

theorem skip_cons {c : Char} (dark : isSpace c = false) : skip (c :: cs) = c :: cs :=
  List.dropWhile_cons_of_neg (by simp [dark])

/-- White space in front of a character that is none. -/
theorem skip_gap {gap : List Char} {c : Char} (blank : Blank gap) (dark : isSpace c = false) :
    skip (gap ++ c :: rest) = c :: rest := by
  rw [skip_append blank, skip_cons dark]

theorem stops_of_isSpace {c : Char} (blank : isSpace c = true) : Stops (c :: rest) := by
  simp only [isSpace, Bool.or_eq_true, beq_iff_eq] at blank
  rcases blank with ((rfl | rfl) | rfl) | rfl
  all_goals exact ⟨rfl, by decide, by decide, by decide⟩

/-- White space ends a number, and what stands behind it does when there is none. -/
theorem stops_gap {gap : List Char} (blank : Blank gap) (stops : Stops rest) :
    Stops (gap ++ rest) := by
  cases gap with
  | nil => exact stops
  | cons c gap => exact stops_of_isSpace (blank c List.mem_cons_self)

theorem stops_mark {c : Char} (mark : c = ',' ∨ c = ']' ∨ c = '}') : Stops (c :: rest) := by
  rcases mark with rfl | rfl | rfl
  all_goals exact ⟨rfl, by decide, by decide, by decide⟩

/-- The first character of a value: no space, not the end of a list and no byte order mark. -/
def Opens (c : Char) : Prop := isSpace c = false ∧ c ≠ ']' ∧ c ≠ '\uFEFF'

instance (c : Char) : Decidable (Opens c) := inferInstanceAs (Decidable (_ ∧ _ ∧ _))

theorem opens_of_isDigit {c : Char} (digit : c.isDigit = true) : Opens c := by
  refine ⟨?_, ne_of_isDigit digit rfl, ne_of_isDigit digit rfl⟩
  simp [isSpace, ne_of_isDigit digit]

/-- The first character of a word or number: it opens a value that has no marks. -/
def Unmarked (c : Char) : Prop := Opens c ∧ c ≠ '"' ∧ c ≠ '{' ∧ c ≠ '['

instance (c : Char) : Decidable (Unmarked c) := inferInstanceAs (Decidable (_ ∧ _ ∧ _ ∧ _))

theorem unmarked_of_isDigit {c : Char} (digit : c.isDigit = true) : Unmarked c :=
  ⟨opens_of_isDigit digit, ne_of_isDigit digit rfl, ne_of_isDigit digit rfl,
    ne_of_isDigit digit rfl⟩

theorem word_front {v : Value} (known : (cs, v) ∈ words) :
    ∃ c tail, cs = c :: tail ∧ Unmarked c := by
  simp only [words, List.mem_cons, Prod.mk.injEq, List.not_mem_nil, or_false] at known
  rcases known with ⟨rfl, _⟩ | ⟨rfl, _⟩ | ⟨rfl, _⟩ | ⟨rfl, _⟩ | ⟨rfl, _⟩ | ⟨rfl, _⟩
  all_goals exact ⟨_, _, rfl, by decide⟩

theorem number_front (negative : Bool) {ds : List Char} (whole : Whole ds) (tail : List Char) :
    ∃ c tail', minus negative ++ (ds ++ tail) = c :: tail' ∧ Unmarked c := by
  obtain ⟨c, more, rfl, digit⟩ := whole.front
  cases negative with
  | true => exact ⟨'-', _, rfl, by decide⟩
  | false => exact ⟨c, _, rfl, unmarked_of_isDigit digit⟩

/-- A value that starts with no mark is a word or a number. -/
theorem readValue_unmarked {c : Char} (unmarked : Unmarked c) :
    readValue (fuel + 1) room (c :: cs) =
      match readWord? (c :: cs) with
      | some found => .ok found
      | none => readNumber (c :: cs) := by
  obtain ⟨_, text, object, list⟩ := unmarked
  rw [readValue.eq_def]
  dsimp only
  split
  · rename_i same
    exact absurd (List.cons.inj same).1 text
  · rename_i same
    exact absurd (List.cons.inj same).1 object
  · rename_i same
    exact absurd (List.cons.inj same).1 list
  · rfl

theorem readWord?_word {v : Value} (known : (cs, v) ∈ words) (rest : List Char) :
    readWord? (cs ++ rest) = some (v, rest) := by
  simp only [words, List.mem_cons, Prod.mk.injEq, List.not_mem_nil, or_false] at known
  rcases known with ⟨rfl, rfl⟩ | ⟨rfl, rfl⟩ | ⟨rfl, rfl⟩ | ⟨rfl, rfl⟩ | ⟨rfl, rfl⟩ | ⟨rfl, rfl⟩
  all_goals rfl

/-- No word starts with a digit or a sign and a digit. -/
theorem readWord?_number {negative : Bool} {ds : List Char} (whole : Whole ds) :
    readWord? (minus negative ++ (ds ++ rest)) = none := by
  obtain ⟨c, tail, rfl, digit⟩ := whole.front
  have apart {e : Char} (other : e.isDigit = false) : e ≠ c := (ne_of_isDigit digit other).symm
  cases negative with
  | true => simp [minus, readWord?, words, apart]
  | false => simp [minus, readWord?, words, apart]

theorem readValue_number {negative : Bool} {ds : List Char} (whole : Whole ds) (tail : List Char) :
    readValue (fuel + 1) room (minus negative ++ (ds ++ tail)) =
      readNumber (minus negative ++ (ds ++ tail)) := by
  have noWord : readWord? (minus negative ++ (ds ++ tail)) = none := readWord?_number whole
  obtain ⟨c, more, front, unmarked⟩ := number_front negative whole tail
  rw [front] at noWord ⊢
  rw [readValue_unmarked unmarked, noWord]

theorem Denotes.front {v : Value} (denotes : Denotes fits cs v) :
    ∃ c tail, cs = c :: tail ∧ Opens c := by
  cases denotes with
  | word known =>
    obtain ⟨c, tail, front, unmarked⟩ := word_front known
    exact ⟨c, tail, front, unmarked.1⟩
  | integer whole fit =>
    obtain ⟨c, tail, front, unmarked⟩ := number_front _ whole []
    rw [List.append_nil] at front
    exact ⟨c, tail, front, unmarked.1⟩
  | number whole pointed marked either =>
    obtain ⟨c, tail, front, unmarked⟩ := number_front _ whole _
    exact ⟨c, tail, front, unmarked.1⟩
  | text spelled => exact ⟨'"', _, rfl, by decide⟩
  | list items =>
    cases items with
    | none blank => exact ⟨'[', _, rfl, by decide⟩
    | some blank parts => exact ⟨'[', _, rfl, by decide⟩
  | object members =>
    cases members with
    | none blank => exact ⟨'{', _, rfl, by decide⟩
    | some blank parts => exact ⟨'{', _, rfl, by decide⟩

/-- No white space is skipped in front of a value. -/
theorem Denotes.skip {v : Value} (denotes : Denotes fits cs v) (rest : List Char) :
    Json.skip (cs ++ rest) = cs ++ rest := by
  obtain ⟨c, tail, rfl, opens⟩ := denotes.front
  exact skip_cons opens.1

/-! ### Lists and objects -/

/-- The text of a value is read with this fuel, wherever it stands. -/
def ReadsValues (fits : List Char → Prop) (fuel : Nat) : Prop :=
  ∀ room {cs v rest}, Denotes fits cs v → Stops rest → cs.length ≤ fuel →
    Reaches fits (readValue fuel room (cs ++ rest)) (v, rest)

def ReadsItems (fits : List Char → Prop) (fuel : Nat) : Prop :=
  ∀ room {cs vs} acc rest, Separated (Denotes fits) cs vs → cs.length < fuel →
    Reaches fits (readItems fuel room acc (cs ++ ']' :: rest)) (acc.reverse ++ vs, rest)

def ReadsMembers (fits : List Char → Prop) (fuel : Nat) : Prop :=
  ∀ room {cs ms} acc rest, Separated (Named (Denotes fits)) cs ms → cs.length < fuel →
    Reaches fits (readMembers fuel room acc (cs ++ '}' :: rest)) (acc.reverse ++ ms, rest)

/-- A part that starts separated parts stands in front of them all. -/
theorem Separated.front {P : List Char → α → Prop} {as : List α} (separated : Separated P cs as) :
    ∃ part a tail, P part a ∧ cs = part ++ tail := by
  cases separated with
  | last part blank => exact ⟨_, _, _, part, rfl⟩
  | next part blank blank' later => exact ⟨_, _, _, part, rfl⟩

theorem skip_items {vs : List Value} (separated : Separated (Denotes fits) cs vs)
    (rest : List Char) : skip (cs ++ rest) = cs ++ rest := by
  obtain ⟨part, v, tail, denotes, rfl⟩ := separated.front
  rw [List.append_assoc]
  exact denotes.skip _

theorem skip_members {P : List Char → Value → Prop} {ms : List (String × Value)}
    (separated : Separated (Named P) cs ms) (rest : List Char) :
    skip (cs ++ rest) = cs ++ rest := by
  obtain ⟨part, m, tail, named, rfl⟩ := separated.front
  cases named
  exact skip_cons (by decide)

theorem readsItems_succ (value : ReadsValues fits fuel) (items : ReadsItems fits fuel) :
    ReadsItems fits (fuel + 1) := by
  intro room cs vs acc rest separated enough
  rw [readItems]
  cases separated with
  | @last cs gap v denotes blank =>
    simp only [List.length_append, List.append_assoc] at enough ⊢
    have stops : Stops (gap ++ ']' :: rest) := stops_gap blank (stops_mark (.inr (.inl rfl)))
    refine (value room denotes stops (by omega)).bind (.inl ?_)
    simp only [skip_gap blank (c := ']') (by decide), List.reverse_cons]
  | @next cs gap gap' ds v vs denotes blank blank' later =>
    simp only [List.length_append, List.length_cons, List.append_assoc, List.cons_append]
      at enough ⊢
    have stops : Stops (gap ++ ',' :: (gap' ++ (ds ++ ']' :: rest))) :=
      stops_gap blank (stops_mark (.inl rfl))
    refine (value room denotes stops (by omega)).bind ?_
    have found := items room (v :: acc) rest later (by omega)
    rw [List.reverse_cons, List.append_assoc, List.singleton_append] at found
    simpa only [skip_gap blank (c := ',') (by decide), skip_append blank', skip_items later]
      using found

/-- The name of a member is read and the colon behind it passed; then comes the value, and behind it
the end of the object or a further member. -/
theorem readMembers_name {name k gap : List Char} (spelled : Spells name k) (blank : Blank gap)
    (acc : List (String × Value)) :
    ∃ next : Value × List Char → Except Failure (List (String × Value) × List Char),
      readMembers (fuel + 1) room acc ('"' :: (name ++ '"' :: (gap ++ ':' :: cs))) =
        readValue fuel room (skip cs) >>= next ∧
      (∀ v left rest, skip left = '}' :: rest →
        next (v, left) = .ok (((String.ofList k, v) :: acc).reverse, rest)) ∧
      ∀ v left rest, skip left = ',' :: rest →
        next (v, left) = readMembers fuel room ((String.ofList k, v) :: acc) (skip rest) := by
  rw [readMembers, readText_spells spelled]
  simp only [bind, Except.bind, skip_gap blank (c := ':') (by decide), List.reverse_nil,
    List.nil_append]
  exact ⟨_, rfl, fun v left rest found => by simp only [found],
    fun v left rest found => by simp only [found]⟩

theorem readsMembers_succ (value : ReadsValues fits fuel) (members : ReadsMembers fits fuel) :
    ReadsMembers fits (fuel + 1) := by
  intro room cs ms acc rest separated enough
  cases separated with
  | @last cs gap m named blank =>
    obtain ⟨spelled, before, behind, denotes⟩ := named
    simp only [List.length_append, List.length_cons, List.append_assoc, List.cons_append]
      at enough ⊢
    have stops : Stops (gap ++ '}' :: rest) := stops_gap blank (stops_mark (.inr (.inr rfl)))
    obtain ⟨next, step, ended, _⟩ := readMembers_name spelled before acc
    rw [step, skip_append behind, denotes.skip]
    refine (value room denotes stops (by omega)).bind (.inl ?_)
    rw [ended _ _ _ (skip_gap blank (by decide)), List.reverse_cons]
  | @next cs gap gap' ds m ms named blank blank' later =>
    obtain @⟨name, k, gap₁, gap₂, cs, v, spelled, before, behind, denotes⟩ := named
    simp only [List.length_append, List.length_cons, List.append_assoc, List.cons_append]
      at enough ⊢
    have stops : Stops (gap ++ ',' :: (gap' ++ (ds ++ '}' :: rest))) :=
      stops_gap blank (stops_mark (.inl rfl))
    obtain ⟨next, step, _, more⟩ := readMembers_name spelled before acc
    rw [step, skip_append behind, denotes.skip]
    refine (value room denotes stops (by omega)).bind ?_
    have found := members room ((String.ofList k, v) :: acc) rest later (by omega)
    rw [List.reverse_cons, List.append_assoc, List.singleton_append] at found
    rw [more _ _ _ (skip_gap blank (by decide)), skip_append blank', skip_members later]
    exact found

/-- A list with items is read item by item. -/
theorem reaches_list {gap : List Char} {vs : List Value} (items : ReadsItems fits fuel)
    (blank : Blank gap) (separated : Separated (Denotes fits) cs vs) (enough : cs.length < fuel) :
    Reaches fits (readValue (fuel + 1) room ('[' :: (gap ++ (cs ++ ']' :: rest))))
      (.list vs, rest) := by
  have found (room : Nat) := items room [] rest separated enough
  obtain ⟨part, v, tail, denotes, rfl⟩ := separated.front
  obtain ⟨c, more, rfl, opens⟩ := denotes.front
  rw [readValue.eq_def]
  simp only [skip_append blank, skip_items separated]
  simp only [List.cons_append, List.append_assoc] at found ⊢
  refine Reaches.enter fun room => ?_
  split
  · rename_i same
    exact absurd (List.cons.inj same).1 opens.2.1
  · exact (found room).bind (.inl rfl)

theorem reaches_object {gap : List Char} {ms : List (String × Value)}
    (members : ReadsMembers fits fuel) (blank : Blank gap)
    (separated : Separated (Named (Denotes fits)) cs ms) (enough : cs.length < fuel) :
    Reaches fits (readValue (fuel + 1) room ('{' :: (gap ++ (cs ++ '}' :: rest))))
      (.object (Entries.ofPairs ms), rest) := by
  have found (room : Nat) := members room [] rest separated enough
  obtain ⟨part, m, tail, named, rfl⟩ := separated.front
  obtain ⟨spelled, before, behind, denotes⟩ := named
  rw [readValue.eq_def]
  simp only [skip_append blank, skip_members separated]
  simp only [List.cons_append, List.append_assoc] at found ⊢
  refine Reaches.enter fun room => ?_
  split
  -- The name of the first member starts with a mark, so this is not the end of the object.
  · rename_i same
    exact absurd (List.cons.inj same).1 (by decide)
  · exact (found room).bind (.inl rfl)

theorem readsValues_succ (items : ReadsItems fits fuel) (members : ReadsMembers fits fuel) :
    ReadsValues fits (fuel + 1) := by
  intro room cs v rest denotes stops enough
  cases denotes with
  | word known =>
    have found := readWord?_word known rest
    obtain ⟨c, tail, rfl, unmarked⟩ := word_front known
    rw [List.cons_append] at found ⊢
    rw [readValue_unmarked unmarked, found]
    exact .inl rfl
  | integer whole fit =>
    rw [List.append_assoc, readValue_number whole]
    exact reaches_integer whole fit stops
  | number whole pointed marked either =>
    simp only [List.append_assoc]
    rw [readValue_number whole, readNumber_parts _ whole pointed marked stops, if_neg either]
    exact .inl rfl
  | text spelled =>
    simp only [List.cons_append, List.append_assoc, List.nil_append]
    rw [readValue, readText_spells spelled]
    exact .inl rfl
  | list enclosed =>
    cases enclosed with
    | none blank =>
      simp only [List.cons_append, List.append_assoc, List.nil_append]
      rw [readValue, skip_gap blank (by decide)]
      exact Reaches.enter fun room => .inl rfl
    | some blank separated =>
      simp only [List.cons_append, List.append_assoc, List.nil_append, List.length_append,
        List.length_cons] at enough ⊢
      exact reaches_list items blank separated (by omega)
  | object enclosed =>
    cases enclosed with
    | none blank =>
      simp only [List.cons_append, List.append_assoc, List.nil_append]
      rw [readValue, skip_gap blank (by decide)]
      exact Reaches.enter fun room => .inl rfl
    | some blank separated =>
      simp only [List.cons_append, List.append_assoc, List.nil_append, List.length_append,
        List.length_cons] at enough ⊢
      exact reaches_object members blank separated (by omega)

/-- The three readers of nested values, by the fuel they share. -/
theorem reads_denoted (fuel : Nat) :
    ReadsValues fits fuel ∧ ReadsItems fits fuel ∧ ReadsMembers fits fuel := by
  induction fuel with
  | zero =>
    refine ⟨fun _ _ _ _ denotes _ enough => ?_, fun _ _ _ _ _ _ enough => ?_,
      fun _ _ _ _ _ _ enough => ?_⟩
    · obtain ⟨c, tail, rfl, _⟩ := denotes.front
      cases enough
    · cases enough
    · cases enough
  | succ fuel ih =>
    obtain ⟨value, items, members⟩ := ih
    exact ⟨readsValues_succ items members, readsItems_succ value items,
      readsMembers_succ value members⟩

/-! ### Whole texts -/

/-- No document starts with a byte order mark. -/
theorem ne_byteOrderMark {gap tail : List Char} {v : Value} (blank : Blank gap)
    (denotes : Denotes fits cs v) : gap ++ (cs ++ rest) ≠ '\uFEFF' :: tail := by
  intro marked
  cases gap with
  | nil =>
    obtain ⟨c, more, rfl, opens⟩ := denotes.front
    exact opens.2.2 (List.cons.inj marked).1
  | cons c gap =>
    have space := blank c List.mem_cons_self
    rw [(List.cons.inj marked).1] at space
    cases space

/-- A document is read as its value, unless it nests too deep or has a long integer. -/
theorem Document.reaches {v : Value} (document : Document (Denotes fits) cs v) :
    Reaches fits (read stack cs) v := by
  obtain @⟨gap, cs, gap', v, blank, denotes, blank'⟩ := document
  have stops : Stops gap' := by
    have ended : Stops (gap' ++ []) := stops_gap blank' trivial
    rwa [List.append_nil] at ended
  have value := (reads_denoted (2 * (gap ++ (cs ++ gap')).length + 2)).1 stack.levels denotes stops
    (by simp only [List.length_append]; omega)
  have last : skip gap' = [] := List.dropWhile_eq_nil_iff.mpr blank'
  unfold read
  split
  · rename_i marked
    exact absurd marked (ne_byteOrderMark blank denotes)
  · rw [skip_append blank, denotes.skip]
    refine value.bind (.inl ?_)
    simp only [last]

/-- A text that has room and whose integers may be converted is read. -/
theorem read_of_document {v : Value} (document : Document (Denotes Convertible) cs v)
    (shallow : nesting cs ≤ stack.levels) : read stack cs = .ok v := by
  rcases document.reaches with read | ⟨b, deep⟩ | ⟨_, ds, few, many⟩
  · exact read
  · exact absurd shallow (Nat.not_le.mpr (lt_nesting_of_read deep))
  · exact absurd few (Nat.not_le.mpr many)

/-- A text without long integer literals that has room is read exactly when it is a JSON text, and
as its value. -/
theorem read_eq_ok_iff (short : IsShort cs) (shallow : nesting cs ≤ stack.levels) {v : Value} :
    read stack cs = .ok v ↔ Document (Denotes fun _ => True) cs v := by
  refine ⟨document_of_read fun _ _ => trivial, fun document => ?_⟩
  rcases document.reaches with read | ⟨b, deep⟩ | ⟨⟨n, long⟩, _⟩
  · exact read
  · exact absurd shallow (Nat.not_le.mpr (lt_nesting_of_read deep))
  · exact absurd long (read_ne_oversized short n)

/-- Without long integer literals, a JSON text that nests too deep is given up at a bracket. -/
theorem read_deep (short : IsShort cs) {v : Value}
    (document : Document (Denotes fun _ => True) cs v) (deep : stack.levels < nesting cs) :
    ∃ b, read stack cs = .error (.tooDeep b) := by
  rcases document.reaches with read | found | ⟨⟨n, long⟩, _⟩
  · exact absurd (nesting_le_of_read read) (Nat.not_le.mpr deep)
  · exact found
  · exact absurd long (read_ne_oversized short n)

/-- A text that is read as an object is one in the grammar; of the members with one name the last
counts. -/
theorem read_eq_object_iff (short : IsShort cs) (shallow : nesting cs ≤ stack.levels)
    {es : Members} :
    read stack cs = .ok (.object es) ↔
      ∃ ms, Document (DenotesMembers fun _ => True) cs ms ∧ es = Entries.ofPairs ms := by
  rw [read_eq_ok_iff short shallow]
  constructor
  · rintro @⟨gap, cs, gap', _, blank, denotes, blank'⟩
    cases denotes with
    | word known => simp [words] at known
    | object members => exact ⟨_, .mk blank members blank', rfl⟩
  · rintro ⟨ms, @⟨gap, cs, gap', _, blank, members, blank'⟩, rfl⟩
    exact .mk blank (.object members) blank'

/-- An integer with too many digits is refused. -/
theorem read_oversized {c : Char} {ds : List Char} (leading : c ≠ '0')
    (digits : ∀ d ∈ c :: ds, d.isDigit = true) (many : maxDigits < (c :: ds).length) :
    read stack (c :: ds) = .error (.oversizedInteger (c :: ds).length) := by
  have whole : Whole (c :: ds) := .digits leading digits
  have unmarked : Unmarked c := unmarked_of_isDigit (digits c List.mem_cons_self)
  have bare : minus false ++ (c :: ds ++ []) = c :: ds := List.append_nil (c :: ds)
  have value (fuel : Nat) : readValue (fuel + 1) stack.levels (minus false ++ (c :: ds ++ [])) =
      readNumber (minus false ++ (c :: ds ++ [])) := readValue_number whole []
  have number : readNumber (minus false ++ (c :: ds ++ [])) =
      .error (.oversizedInteger (c :: ds).length) := by
    have stops : Stops [] := trivial
    have parts := readNumber_parts false whole .none .none stops
    rwa [if_pos ⟨rfl, rfl⟩, if_pos many] at parts
  rw [bare] at number
  simp only [bare] at value
  unfold read
  split
  · rename_i marked
    exact absurd (List.cons.inj marked).1 unmarked.1.2.2
  · rw [skip_cons unmarked.1.1, value, number]
    rfl

end CredoAssistant.Json
