import CredoAssistant.Proofs.Json.Reader

/-!
The grammar of JSON texts, said without the reader: which lists of characters stand for which value.
Beyond the standard `NaN`, `Infinity` and `-Infinity` are words, a surrogate without its partner is
taken for U+FFFD, and names may be repeated in an object. The reader stops where a part of a text
ends, so what it takes of a longer text is a part that the grammar gives the same value.
-/
namespace CredoAssistant.Json

variable {α β : Type} {stack : Stack} {cs rest : List Char}

/-- White space. -/
def Blank (cs : List Char) : Prop := ∀ c ∈ cs, isSpace c = true

theorem blank_nil : Blank [] := nofun

/-- The escape of the low surrogate `m` stands in front of a text. -/
def FrontsLow (m : Nat) (cs : List Char) : Prop :=
  ∃ h₁ h₂ h₃ h₄ rest, cs = '\\' :: 'u' :: h₁ :: h₂ :: h₃ :: h₄ :: rest ∧
    unit? h₁ h₂ h₃ h₄ = some m ∧ isLowSurrogate m = true

/-- What stands between two quotation marks, and the characters it stands for. A high surrogate
makes a pair with the low one behind it. -/
inductive Spells : List Char → List Char → Prop
  | done : Spells [] []
  | plain {c : Char} {cs s : List Char} (quote : c ≠ '"') (backslash : c ≠ '\\')
      (printable : 0x20 ≤ c.toNat) (later : Spells cs s) : Spells (c :: cs) (c :: s)
  | escape {e d : Char} {cs s : List Char} (known : simpleEscape? e = some d)
      (later : Spells cs s) : Spells ('\\' :: e :: cs) (d :: s)
  | unit {h₁ h₂ h₃ h₄ : Char} {n : Nat} {cs s : List Char} (digits : unit? h₁ h₂ h₃ h₄ = some n)
      (alone : isHighSurrogate n = true → ∀ m, ¬ FrontsLow m cs) (later : Spells cs s) :
      Spells ('\\' :: 'u' :: h₁ :: h₂ :: h₃ :: h₄ :: cs) (unitChar n :: s)
  | pair {h₁ h₂ h₃ h₄ l₁ l₂ l₃ l₄ : Char} {high low : Nat} {cs s : List Char}
      (first : unit? h₁ h₂ h₃ h₄ = some high) (upper : isHighSurrogate high = true)
      (second : unit? l₁ l₂ l₃ l₄ = some low) (lower : isLowSurrogate low = true)
      (later : Spells cs s) :
      Spells ('\\' :: 'u' :: h₁ :: h₂ :: h₃ :: h₄ :: '\\' :: 'u' :: l₁ :: l₂ :: l₃ :: l₄ :: cs)
        (pairChar high low :: s)

/-- The digits in front of a point: a zero alone, or digits that start with another one. -/
inductive Whole : List Char → Prop
  | zero : Whole ['0']
  | digits {c : Char} {ds : List Char} (leading : c ≠ '0')
      (digits : ∀ d ∈ c :: ds, d.isDigit = true) : Whole (c :: ds)

/-- A fraction and its digits. -/
inductive Fraction : List Char → List Char → Prop
  | none : Fraction [] []
  | point {ds : List Char} (nonempty : ds ≠ []) (digits : ∀ d ∈ ds, d.isDigit = true) :
      Fraction ('.' :: ds) ds

/-- A sign of an exponent: whether it is a minus. -/
inductive Sign : List Char → Bool → Prop
  | none : Sign [] false
  | plus : Sign ['+'] false
  | minus : Sign ['-'] true

/-- An exponent and the power of ten it stands for. -/
inductive Exponent : List Char → Option Int → Prop
  | none : Exponent [] .none
  | power {mark : Char} {sign ds : List Char} {below : Bool} (marks : mark = 'e' ∨ mark = 'E')
      (signed : Sign sign below) (nonempty : ds ≠ []) (digits : ∀ d ∈ ds, d.isDigit = true) :
      Exponent (mark :: (sign ++ ds))
        (.some (if below then -(Decimal.value ds : Int) else (Decimal.value ds : Int)))

/-- The sign of a number. -/
def minus (negative : Bool) : List Char := if negative then ['-'] else []

/-- Parts with commas between them; white space may stand around each comma and behind the last
part. -/
inductive Separated (P : List Char → α → Prop) : List Char → List α → Prop
  | last {cs gap : List Char} {a : α} (part : P cs a) (blank : Blank gap) :
      Separated P (cs ++ gap) [a]
  | next {cs gap gap' ds : List Char} {a : α} {as : List α} (part : P cs a) (blank : Blank gap)
      (blank' : Blank gap') (later : Separated P ds as) :
      Separated P (cs ++ (gap ++ ',' :: (gap' ++ ds))) (a :: as)

/-- Nothing or separated parts between two brackets. -/
inductive Enclosed (opening closing : Char) (P : List Char → α → Prop) : List Char → List α → Prop
  | none {gap : List Char} (blank : Blank gap) :
      Enclosed opening closing P (opening :: (gap ++ [closing])) []
  | some {gap cs : List Char} {as : List α} (blank : Blank gap) (parts : Separated P cs as) :
      Enclosed opening closing P (opening :: (gap ++ (cs ++ [closing]))) as

/-- A name in quotation marks, a colon and a value. -/
inductive Named (P : List Char → Value → Prop) : List Char → String × Value → Prop
  | mk {name k gap gap' cs : List Char} {v : Value} (spelled : Spells name k) (blank : Blank gap)
      (blank' : Blank gap') (value : P cs v) :
      Named P ('"' :: (name ++ '"' :: (gap ++ ':' :: (gap' ++ cs)))) (String.ofList k, v)

/-- Digits that may be converted. -/
def Convertible (ds : List Char) : Prop := ds.length ≤ maxDigits

/-- The text stands for a value; `fits` says which digits may make an integer. -/
inductive Denotes (fits : List Char → Prop) : List Char → Value → Prop
  | word {cs : List Char} {v : Value} (known : (cs, v) ∈ words) : Denotes fits cs v
  | integer {negative : Bool} {ds : List Char} (whole : Whole ds) (fit : fits ds) :
      Denotes fits (minus negative ++ ds)
        (.int (if negative then -(Decimal.value ds : Int) else (Decimal.value ds : Int)))
  | number {negative : Bool} {ds point fraction mark : List Char} {power : Option Int}
      (whole : Whole ds) (pointed : Fraction point fraction) (marked : Exponent mark power)
      (either : ¬ (fraction = [] ∧ power = none)) :
      Denotes fits (minus negative ++ (ds ++ (point ++ mark)))
        (.float (Binary64.ofDecimal negative (Decimal.value (ds ++ fraction))
          (power.getD 0 - fraction.length)))
  | text {cs s : List Char} (spelled : Spells cs s) :
      Denotes fits ('"' :: (cs ++ ['"'])) (.text (String.ofList s))
  | list {cs : List Char} {vs : List Value} (items : Enclosed '[' ']' (Denotes fits) cs vs) :
      Denotes fits cs (.list vs)
  | object {cs : List Char} {ms : List (String × Value)}
      (members : Enclosed '{' '}' (Named (Denotes fits)) cs ms) :
      Denotes fits cs (.object (Entries.ofPairs ms))

/-- Objects with their members as they stand in the text, repeated names among them. -/
abbrev DenotesMembers (fits : List Char → Prop) : List Char → List (String × Value) → Prop :=
  Enclosed '{' '}' (Named (Denotes fits))

/-- A whole text: one part with white space around it. -/
inductive Document (P : List Char → α → Prop) : List Char → α → Prop
  | mk {gap cs gap' : List Char} {a : α} (blank : Blank gap) (part : P cs a) (blank' : Blank gap') :
      Document P (gap ++ (cs ++ gap')) a

/-- No white space need stand around the part. -/
theorem Document.bare {P : List Char → α → Prop} {a : α} (part : P cs a) : Document P cs a := by
  have whole := Document.mk blank_nil part blank_nil
  rwa [List.nil_append, List.append_nil] at whole

/-! ### What the reader takes -/

/-- What a part of the reader takes off a text, if it succeeds. -/
def Takes (P : List Char → α → Prop) (cs : List Char) (r : Except Failure (α × List Char)) : Prop :=
  ∀ a rest, r = .ok (a, rest) → ∃ front, cs = front ++ rest ∧ P front a

namespace Takes

variable {P : List Char → α → Prop} {Q : List Char → β → Prop} {r : Except Failure (α × List Char)}

theorem ok {a : α} (holds : P [] a) : Takes P rest (.ok (a, rest)) := by
  rintro _ _ ⟨⟩
  exact ⟨[], rfl, holds⟩

theorem error {f : Failure} : Takes P cs (.error f) := nofun

theorem mono {R : List Char → α → Prop} (takes : Takes P cs r)
    (weaker : ∀ front a, P front a → R front a) : Takes R cs r := by
  intro a rest read
  obtain ⟨front, joined, holds⟩ := takes a rest read
  exact ⟨front, joined, weaker front a holds⟩

/-- What stands in front of the part is taken with it. -/
theorem append {front : List Char} (takes : Takes (fun more a => P (front ++ more) a) cs r) :
    Takes P (front ++ cs) r := by
  intro a rest read
  obtain ⟨more, rfl, holds⟩ := takes a rest read
  exact ⟨front ++ more, (List.append_assoc ..).symm, holds⟩

theorem cons {c : Char} (takes : Takes (fun more a => P (c :: more) a) cs r) :
    Takes P (c :: cs) r := by
  have joined : Takes P ([c] ++ cs) r := append takes
  exact joined

theorem skip (takes : ∀ gap, Blank gap → Takes (fun more a => P (gap ++ more) a) (skip cs) r) :
    Takes P cs r := by
  have blank : Blank (cs.takeWhile isSpace) := fun _ => List.mem_takeWhile_imp
  have found := append (takes _ blank)
  rwa [Json.skip, List.takeWhile_append_dropWhile] at found

theorem bind {f : α × List Char → Except Failure (β × List Char)} (takes : Takes P cs r)
    (next : ∀ front a rest, P front a →
      Takes (fun more b => Q (front ++ more) b) rest (f (a, rest))) : Takes Q cs (r >>= f) := by
  cases r with
  | error => exact error
  | ok found =>
    obtain ⟨a, rest⟩ := found
    obtain ⟨front, rfl, holds⟩ := takes a rest rfl
    exact append (next front a rest holds)

theorem enter {b : Bracket} {room : Nat} {f : Nat → Except Failure (α × List Char)}
    (inside : ∀ room, Takes P cs (f room)) : Takes P cs (enter b room >>= f) := by
  cases room with
  | zero => exact error
  | succ room => exact inside room

end Takes

/-- Without a partner no low surrogate is escaped in front of the closing mark. -/
theorem not_frontsLow (none : partner? (cs ++ '"' :: rest) = .ok none) (m : Nat) :
    ¬ FrontsLow m cs := by
  rintro ⟨h₁, h₂, h₃, h₄, last, rfl, digits, low⟩
  simp [partner?, digits, low] at none

/-- The text goes on behind the characters `acc`, which are listed last first, up to its closing
mark. -/
def Continues (acc front s : List Char) : Prop :=
  ∃ body more, front = body ++ ['"'] ∧ Spells body more ∧ s = acc.reverse ++ more

/-- One more character of a text. -/
theorem Takes.spell {acc : List Char} {c : Char} {r : Except Failure (List Char × List Char)}
    (takes : Takes (Continues (c :: acc)) cs r) (taken : List Char)
    (step : ∀ body more rest, cs = body ++ '"' :: rest → Spells body more →
      Spells (taken ++ body) (c :: more)) : Takes (Continues acc) (taken ++ cs) r := by
  intro s rest read
  obtain ⟨front, joined, body, more, rfl, spelled, rfl⟩ := takes s rest read
  have inside : cs = body ++ '"' :: rest := by
    rw [joined, List.append_assoc, List.singleton_append]
  refine ⟨taken ++ body ++ ['"'], ?_, taken ++ body, c :: more, rfl, ?_, ?_⟩
  · rw [joined, List.append_assoc, List.append_assoc, List.append_assoc]
  · exact step body more rest inside spelled
  · rw [List.reverse_cons, List.append_assoc, List.singleton_append]

theorem takes_text (opening : Nat) (acc cs : List Char) :
    Takes (Continues acc) cs (readText opening acc cs) := by
  fun_induction readText opening acc cs with
  | case2 acc rest =>
    exact Takes.cons (Takes.ok ⟨[], [], rfl, .done, (List.append_nil _).symm⟩)
  | case7 acc h₁ h₂ h₃ h₄ tail n digits inside high alone other ih =>
    refine ih.spell ['\\', 'u', h₁, h₂, h₃, h₄] fun body more rest joined spelled => ?_
    -- The reader looks past the closing mark, but a low surrogate would stand in front of it.
    rw [joined] at alone
    exact .unit digits (fun _ => not_frontsLow alone) spelled
  | case8 acc h₁ h₂ h₃ h₄ n digits high m l₁ l₂ l₃ l₄ l₅ l₆ last other inside pair ih =>
    obtain ⟨_, _, _, _, _, same, second, low⟩ := partner?_eq_some pair
    cases same
    exact ih.spell ['\\', 'u', h₁, h₂, h₃, h₄, '\\', 'u', l₃, l₄, l₅, l₆]
      fun body more rest _ spelled => .pair digits high second low spelled
  | case10 acc h₁ h₂ h₃ h₄ tail n digits inside low other ih =>
    exact ih.spell ['\\', 'u', h₁, h₂, h₃, h₄] fun body more rest _ spelled =>
      .unit digits (fun high => absurd high low) spelled
  | case12 acc e more simple d escape other ih =>
    exact ih.spell ['\\', e] fun body more rest _ spelled => .escape escape spelled
  | case15 acc c rest other plain printable ih =>
    exact ih.spell [c] fun body more rest _ spelled =>
      .plain other plain (Nat.le_of_not_lt printable) spelled
  | _ => exact Takes.error

theorem whole_takeWhole {c : Char} (digit : c.isDigit = true) (rest : List Char) :
    Whole (takeWhole (c :: rest)).1 := by
  by_cases zero : c = '0'
  · subst zero
    exact .zero
  · have taken : (takeWhole (c :: rest)).1 = c :: rest.takeWhile Char.isDigit := by
      unfold takeWhole
      split
      · rename_i front
        exact absurd (List.cons.inj front).1 zero
      · exact List.takeWhile_cons_of_pos digit
    have digits : ∀ d ∈ (takeWhole (c :: rest)).1, d.isDigit = true := fun d => takeWhole_isDigit
    rw [taken] at digits ⊢
    exact .digits zero digits

theorem fraction_takeFraction (cs : List Char) :
    ∃ point, cs = point ++ (takeFraction cs).2 ∧ Fraction point (takeFraction cs).1 := by
  unfold takeFraction
  split
  · rename_i d rest
    split
    · rename_i digit
      refine ⟨'.' :: d :: rest.takeWhile Char.isDigit, ?_, .point (List.cons_ne_nil _ _) ?_⟩
      · rw [List.cons_append, List.cons_append, List.takeWhile_append_dropWhile]
      · exact List.forall_mem_cons.mpr ⟨digit, fun _ => List.mem_takeWhile_imp⟩
    · exact ⟨[], rfl, .none⟩
  · exact ⟨[], rfl, .none⟩

theorem sign_takeSign (cs : List Char) :
    ∃ sign, cs = sign ++ (Binary64.takeSign cs).2 ∧ Sign sign (Binary64.takeSign cs).1 := by
  unfold Binary64.takeSign
  split
  · exact ⟨['-'], rfl, .minus⟩
  · exact ⟨['+'], rfl, .plus⟩
  · exact ⟨[], rfl, .none⟩

theorem exponent_takeExponent (cs : List Char) :
    ∃ mark, cs = mark ++ (takeExponent cs).2 ∧ Exponent mark (takeExponent cs).1 := by
  unfold takeExponent
  split
  · rename_i mark rest
    obtain ⟨sign, joined, signed⟩ := sign_takeSign rest
    split
    · rename_i marks
      dsimp only
      split
      · exact ⟨[], rfl, .none⟩
      · rename_i nonempty
        refine ⟨mark :: (sign ++ (Binary64.takeSign rest).2.takeWhile Char.isDigit), ?_,
          .power marks signed (by simpa using nonempty) fun _ => List.mem_takeWhile_imp⟩
        rw [List.cons_append, List.append_assoc, List.takeWhile_append_dropWhile, ← joined]
    · exact ⟨[], rfl, .none⟩
  · exact ⟨[], rfl, .none⟩

theorem Fraction.eq_nil {point ds : List Char} (pointed : Fraction point ds) (empty : ds = []) :
    point = [] := by
  cases pointed with
  | none => rfl
  | point nonempty digits => exact absurd empty nonempty

theorem Exponent.eq_nil {mark : List Char} (marked : Exponent mark .none) : mark = [] := by
  cases marked
  rfl

variable {fits : List Char → Prop}

/-- A number is taken up to the end of its exponent. -/
theorem takes_number (enough : ∀ ds, Convertible ds → fits ds) (cs : List Char) :
    Takes (Denotes fits) cs (readNumber cs) := by
  unfold readNumber
  split
  rename_i negative body signed
  have front : cs = minus negative ++ body := by
    split at signed
    · cases signed
      rfl
    · cases signed
      rfl
  rw [front]
  refine Takes.append ?_
  dsimp only
  split
  · exact Takes.error
  · rename_i nonempty
    obtain ⟨c, rest, rfl, digit⟩ := isDigit_of_takeWhole (by simpa using nonempty)
    have whole := whole_takeWhole digit rest
    have joined := takeWhole_append (c :: rest)
    generalize takeWhole (c :: rest) = first at whole joined
    obtain ⟨ds, afterWhole⟩ := first
    obtain ⟨point, pointJoined, pointed⟩ := fraction_takeFraction afterWhole
    generalize takeFraction afterWhole = second at pointJoined pointed
    obtain ⟨fraction, afterFraction⟩ := second
    obtain ⟨mark, markJoined, marked⟩ := exponent_takeExponent afterFraction
    generalize takeExponent afterFraction = third at markJoined marked
    obtain ⟨power, left⟩ := third
    dsimp only at whole joined pointJoined pointed markJoined marked ⊢
    split
    · rename_i integer
      rw [Bool.and_eq_true, List.isEmpty_iff, Option.isNone_iff_eq_none] at integer
      obtain ⟨rfl, rfl⟩ := integer
      obtain rfl := pointed.eq_nil rfl
      obtain rfl := marked.eq_nil
      split
      · exact Takes.error
      · rename_i few
        rw [← joined, pointJoined, markJoined]
        refine Takes.append (Takes.ok ?_)
        rw [List.append_nil]
        exact .integer whole (enough ds (Nat.le_of_not_lt few))
    · rename_i number
      rw [Bool.and_eq_true, List.isEmpty_iff, Option.isNone_iff_eq_none] at number
      have together : c :: rest = ds ++ (point ++ mark) ++ left := by
        rw [← joined, pointJoined, markJoined, List.append_assoc, List.append_assoc]
      rw [together]
      refine Takes.append (Takes.ok ?_)
      rw [List.append_nil]
      exact .number whole pointed marked number

/-- Separated parts go on behind those of `acc`, which are listed last first, up to a bracket. -/
def Ends (closing : Char) (P : List Char → α → Prop) (acc : List α) (front : List Char)
    (as : List α) : Prop :=
  ∃ parts more, front = parts ++ [closing] ∧ Separated P parts more ∧ as = acc.reverse ++ more

section

variable {closing : Char} {P : List Char → α → Prop} {acc : List α} {a : α}
  {front gap gap' more : List Char}

theorem Ends.last (part : P front a) (blank : Blank gap) :
    Ends closing P acc (front ++ (gap ++ [closing])) (a :: acc).reverse :=
  ⟨front ++ gap, [a], (List.append_assoc ..).symm, .last part blank, List.reverse_cons⟩

theorem Ends.next {as : List α} (part : P front a) (blank : Blank gap) (blank' : Blank gap')
    (later : Ends closing P (a :: acc) more as) :
    Ends closing P acc (front ++ (gap ++ ',' :: (gap' ++ more))) as := by
  obtain ⟨parts, others, rfl, separated, rfl⟩ := later
  refine ⟨front ++ (gap ++ ',' :: (gap' ++ parts)), a :: others, ?_,
    .next part blank blank' separated, ?_⟩
  · simp only [List.append_assoc, List.cons_append]
  · rw [List.reverse_cons, List.append_assoc, List.singleton_append]

/-- All the parts between two brackets. -/
theorem Ends.enclosed {opening : Char} {as : List α} (blank : Blank gap)
    (ends : Ends closing P [] more as) :
    Enclosed opening closing P (opening :: (gap ++ more)) as := by
  obtain ⟨parts, others, rfl, separated, rfl⟩ := ends
  exact .some blank separated

end

section

variable {fuel room : Nat}

theorem takes_items (value : ∀ cs, Takes (Denotes fits) cs (readValue fuel room cs))
    (items : ∀ acc cs, Takes (Ends ']' (Denotes fits) acc) cs (readItems fuel room acc cs))
    (acc : List Value) (cs : List Char) :
    Takes (Ends ']' (Denotes fits) acc) cs (readItems (fuel + 1) room acc cs) := by
  rw [readItems]
  refine (value cs).bind fun front v rest part => Takes.skip fun gap blank => ?_
  dsimp only
  generalize skip rest = behind
  split
  · exact Takes.cons (Takes.ok (.last part blank))
  · refine Takes.cons (Takes.skip fun gap' blank' => (items _ _).mono fun more vs later => ?_)
    exact .next part blank blank' later
  · exact Takes.error

theorem takes_members (value : ∀ cs, Takes (Denotes fits) cs (readValue fuel room cs))
    (members : ∀ acc cs,
      Takes (Ends '}' (Named (Denotes fits)) acc) cs (readMembers fuel room acc cs))
    (acc : List (String × Value)) (cs : List Char) :
    Takes (Ends '}' (Named (Denotes fits)) acc) cs (readMembers (fuel + 1) room acc cs) := by
  rw [readMembers.eq_def]
  dsimp only
  split
  · rename_i rest
    refine Takes.cons ((takes_text _ _ rest).bind fun name k left spelled => ?_)
    obtain ⟨body, s, rfl, spelled, rfl⟩ := spelled
    refine Takes.skip fun gap blank => ?_
    dsimp only
    generalize skip left = behind
    split
    · refine Takes.cons (Takes.skip fun gap' blank' => ?_)
      refine (value _).bind fun front v rest part => Takes.skip fun gap₂ blank₂ => ?_
      have named := Named.mk spelled blank blank' part
      dsimp only
      generalize skip rest = behind
      split
      · refine Takes.cons (Takes.ok ?_)
        simpa only [List.append_assoc, List.cons_append, List.nil_append] using
          Ends.last named blank₂
      · refine Takes.cons (Takes.skip fun gap₃ blank₃ => (members _ _).mono fun more ms later => ?_)
        simpa only [List.append_assoc, List.cons_append, List.nil_append] using
          Ends.next named blank₂ blank₃ later
      · exact Takes.error
    · exact Takes.error
  · exact Takes.error

theorem takes_value (enough : ∀ ds, Convertible ds → fits ds)
    (items : ∀ room acc cs, Takes (Ends ']' (Denotes fits) acc) cs (readItems fuel room acc cs))
    (members : ∀ room acc cs,
      Takes (Ends '}' (Named (Denotes fits)) acc) cs (readMembers fuel room acc cs))
    (cs : List Char) : Takes (Denotes fits) cs (readValue (fuel + 1) room cs) := by
  rw [readValue.eq_def]
  dsimp only
  split
  · rename_i rest
    refine Takes.cons ((takes_text _ _ rest).bind fun front s left spelled => Takes.ok ?_)
    obtain ⟨body, s, rfl, spelled, rfl⟩ := spelled
    rw [List.append_nil]
    exact .text spelled
  · refine Takes.cons (Takes.enter fun room => Takes.skip fun gap blank => ?_)
    generalize skip _ = behind
    split
    · have empty : Denotes fits ('{' :: (gap ++ ['}'])) (.object (Entries.ofPairs [])) :=
        .object (.none blank)
      refine Takes.cons (Takes.ok ?_)
      exact empty
    · refine (members room [] _).bind fun more ms left ends => Takes.ok ?_
      rw [List.append_nil]
      exact .object (ends.enclosed blank)
  · refine Takes.cons (Takes.enter fun room => Takes.skip fun gap blank => ?_)
    generalize skip _ = behind
    split
    · have empty : Denotes fits ('[' :: (gap ++ [']'])) (.list []) := .list (.none blank)
      refine Takes.cons (Takes.ok ?_)
      exact empty
    · refine (items room [] _).bind fun more vs left ends => Takes.ok ?_
      rw [List.append_nil]
      exact .list (ends.enclosed blank)
  · split
    · rename_i found front
      obtain ⟨word, known, rfl⟩ := readWord?_eq_some front
      refine Takes.append (Takes.ok ?_)
      rw [List.append_nil]
      exact .word known
    · exact takes_number enough cs

end

/-- The three readers of nested values, by the fuel they share. -/
theorem takes_nested (enough : ∀ ds, Convertible ds → fits ds) (fuel : Nat) :
    (∀ room cs, Takes (Denotes fits) cs (readValue fuel room cs)) ∧
      (∀ room acc cs, Takes (Ends ']' (Denotes fits) acc) cs (readItems fuel room acc cs)) ∧
      ∀ room acc cs,
        Takes (Ends '}' (Named (Denotes fits)) acc) cs (readMembers fuel room acc cs) := by
  induction fuel with
  | zero =>
    refine ⟨fun room cs => ?_, fun room acc cs => ?_, fun room acc cs => ?_⟩
    · rw [readValue]
      exact Takes.error
    · rw [readItems]
      exact Takes.error
    · rw [readMembers]
      exact Takes.error
  | succ fuel ih =>
    obtain ⟨value, items, members⟩ := ih
    exact ⟨fun room => takes_value enough items members,
      fun room => takes_items (value room) (items room),
      fun room => takes_members (value room) (members room)⟩

/-- A text that is read is a document of its value, whose integers are short. -/
theorem document_of_read {v : Value} (enough : ∀ ds, Convertible ds → fits ds)
    (decoded : read stack cs = .ok v) : Document (Denotes fits) cs v := by
  obtain ⟨rest, found, last⟩ := readValue_of_read decoded
  obtain ⟨front, joined, denotes⟩ := (takes_nested enough _).1 _ _ v rest found
  have before : cs.takeWhile isSpace ++ skip cs = cs := List.takeWhile_append_dropWhile
  rw [← before, joined]
  exact .mk (fun _ => List.mem_takeWhile_imp) denotes
    (List.dropWhile_eq_nil_iff.mp last)

end CredoAssistant.Json
