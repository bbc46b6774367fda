import CredoAssistant.Proofs.Toml.Nesting
import CredoAssistant.Toml.Reader

/-!
What the readers of keys and scalars leave of a text, and when they give up. Each goes on somewhere
behind its start and passes no bracket on the way. An integer with too many digits stands in the
text itself, and nothing nests deeper than the text does.
-/
namespace CredoAssistant.Toml

variable {α β : Type} {P : α → Prop} {Q : β → Prop} {cs rest : List Char} {n room closed : Nat}

/-- The text holds `n` digits, more than an integer may have, with nothing but underscores between
them. -/
def HasOversized (n : Nat) (cs : List Char) : Prop :=
  Json.maxDigits < n ∧
    ∃ run, run <:+: cs ∧ run.countP Char.isDigit = n ∧ ∀ c ∈ run, c.isDigit = true ∨ c = '_'

/-- What a part of the reader comes to that starts at `cs` with room for so many calls: something
with `P`, unless it gives up on an integer that stands there, on values that nest deeper than there
is room, or finds the text malformed. -/
def Comes (room : Nat) (cs : List Char) (P : α → Prop) : Except Failure α → Prop
  | .ok a => P a
  | .error (.oversizedInteger n) => HasOversized n cs
  | .error .tooDeep => room < inlineCalls * nesting cs
  | .error (.malformed _ _) => True

/-- A part goes on behind what it reads. -/
abbrev Reads (room closed : Nat) (cs : List Char) (r : Except Failure (α × List Char)) : Prop :=
  Comes room cs (fun p => Passes closed cs p.2) r

abbrev Skips (room : Nat) (cs : List Char) (r : Except Failure (List Char)) : Prop :=
  Comes room cs (Passes 0 cs) r

theorem HasOversized.widen (found : HasOversized n rest) (inside : rest <:+: cs) :
    HasOversized n cs := by
  obtain ⟨many, run, within, digits, plain⟩ := found
  exact ⟨many, run, within.trans inside, digits, plain⟩

theorem Comes.mono {Q : α → Prop} {r : Except Failure α} (comes : Comes room rest P r)
    (passes : Passes 0 cs rest) (weaker : ∀ a, P a → Q a) : Comes room cs Q r := by
  match r, comes with
  | .ok a, found => exact weaker a found
  | .error (.oversizedInteger n), found => exact HasOversized.widen found passes.tail.isInfix
  | .error .tooDeep, deep => exact Nat.lt_of_lt_of_le deep (Nat.mul_le_mul_left _ passes.nests)
  | .error (.malformed _ _), _ => trivial

/-- One part after the other. -/
theorem Comes.bind {r : Except Failure α} {f : α → Except Failure β} (comes : Comes room cs P r)
    (next : ∀ a, P a → Comes room cs Q (f a)) : Comes room cs Q (r >>= f) := by
  match r, comes with
  | .ok a, found => exact next a found
  | .error (.oversizedInteger n), found => exact found
  | .error .tooDeep, deep => exact deep
  | .error (.malformed _ _), _ => trivial

theorem Comes.map {r : Except Failure α} {f : α → β} (comes : Comes room cs P r)
    (next : ∀ a, P a → Q (f a)) : Comes room cs Q (r.map f) := by
  match r, comes with
  | .ok a, found => exact next a found
  | .error (.oversizedInteger n), found => exact found
  | .error .tooDeep, deep => exact deep
  | .error (.malformed _ _), _ => trivial

/-- A part that starts further behind reads the same. -/
theorem Comes.reads {r : Except Failure (α × List Char)} (reads : Reads room closed rest r)
    (passes : Passes 0 cs rest) : Reads room closed cs r :=
  reads.mono passes fun _ left => passes.trans left

theorem Comes.skips {r : Except Failure (List Char)} (skips : Skips room rest r)
    (passes : Passes 0 cs rest) : Skips room cs r :=
  skips.mono passes fun _ left => passes.trans left

/-! ### Blanks, line ends and comments -/

theorem passes_blanks (cs : List Char) : Passes 0 cs (skipBlanks cs) :=
  Passes.dropWhile (by decide) cs

theorem skips_comment (cs : List Char) : Skips room cs (skipComment cs) := by
  unfold skipComment
  split
  · rename_i body
    dsimp only
    split
    · trivial
    · exact .comment body
  · exact .refl cs

theorem skips_filler (fuel : Nat) (cs : List Char) : Skips room cs (skipFiller fuel cs) := by
  induction fuel generalizing cs with
  | zero => exact .refl cs
  | succ fuel ih =>
    have comment : Skips room cs (skipComment (cs.dropWhile isBlankOrNewline)) :=
      (skips_comment _).skips (Passes.dropWhile (by decide) cs)
    rw [skipFiller]
    generalize skipComment (cs.dropWhile isBlankOrNewline) = r at comment ⊢
    match r, comment with
    | .error f, failed => exact failed
    | .ok rest, passes =>
      dsimp only
      split
      · exact (ih rest).skips passes
      · exact passes

/-! ### Keys -/

/-- A text that ends goes on behind it. -/
theorem reads_text {r : Except Failure (List Char × List Char)} (ends : Ends rest r)
    (tail : rest <:+ cs) (same : nesting cs = nesting (leftover r)) : Reads room 0 cs r := by
  match r, ends with
  | .ok (_, left), ends => exact ⟨List.IsSuffix.trans ends tail, Nat.le_of_eq same.symm⟩
  | .error (.malformed _ _), _ => trivial

/-- A quotation mark comes first. -/
def Quotes (cs : List Char) : Prop := cs.head? = some '"' ∨ cs.head? = some '\''

/-- A part of a key is passed, unless it is an empty text with a third quotation mark behind it. -/
def PassesKey (cs rest : List Char) : Prop := rest <:+ cs ∧ (¬ Quotes rest → Passes 0 cs rest)

theorem Passes.passesKey (passes : Passes 0 cs rest) : PassesKey cs rest :=
  ⟨passes.tail, fun _ => passes⟩

theorem comes_quoted {mark : Char} (quotes : mark = '"' ∨ mark = '\'')
    {r : Except Failure (List Char × List Char)} (ends : Ends rest r)
    (spans : afterText (mark :: rest) = leftover r ∨ ∃ left, r = .ok ([], mark :: left)) :
    Comes room (mark :: rest) (fun p => PassesKey (mark :: rest) p.2) r := by
  have behind : rest <:+ mark :: rest := List.suffix_cons mark rest
  rcases spans with text | ⟨left, rfl⟩
  · have same : nesting (mark :: rest) = nesting (leftover r) := by rw [nesting_text quotes, text]
    exact (reads_text ends behind same).mono (.refl _) fun _ passes => passes.passesKey
  · refine ⟨List.IsSuffix.trans ends behind, fun plain => absurd ?_ plain⟩
    rcases quotes with rfl | rfl
    · exact .inl rfl
    · exact .inr rfl

theorem comes_keyPart (cs : List Char) :
    Comes room cs (fun p => PassesKey cs p.2) (readKeyPart cs) := by
  unfold readKeyPart
  split
  · rename_i rest
    exact (comes_quoted (.inr rfl) (ends_literal rest) (afterText_literal rest)).bind
      fun _ key => key
  · rename_i rest
    exact (comes_quoted (.inl rfl) (ends_lineText rest) (afterText_lineText rest)).bind
      fun _ key => key
  · dsimp only
    split_ifs
    · trivial
    · exact (Passes.dropWhile (by decide) cs).passesKey

/-- Blanks do not hide a quotation mark. -/
theorem PassesKey.blanks (key : PassesKey cs rest) : PassesKey cs (skipBlanks rest) := by
  refine ⟨(skipBlanks_suffix rest).trans key.1, fun plain => ?_⟩
  by_cases quotes : Quotes rest
  · have marked : skipBlanks rest = rest := by
      cases rest with
      | nil => rfl
      | cons c rest =>
        refine List.dropWhile_cons_of_neg ?_
        rcases quotes with front | front
        · cases front
          decide
        · cases front
          decide
    rw [marked] at plain
    exact absurd quotes plain
  · exact (key.2 quotes).trans (passes_blanks rest)

theorem comes_keyParts (fuel : Nat) (cs : List Char) :
    Comes room cs (fun p => PassesKey cs p.2) (readKeyParts fuel cs) := by
  induction fuel generalizing cs with
  | zero => trivial
  | succ fuel ih =>
    refine (comes_keyPart cs).bind fun (part, rest) key => ?_
    have blanks := key.blanks
    dsimp only at blanks ⊢
    split
    · rename_i tail found
      rw [found] at blanks
      have point : Passes 0 cs ('.' :: tail) := blanks.2 (by simp [Quotes])
      have further : Passes 0 cs (skipBlanks tail) :=
        (point.trans (.flat (by decide) tail)).trans (passes_blanks tail)
      refine ((ih (skipBlanks tail)).mono further fun _ later => ?_).bind fun _ key => key
      exact ⟨later.1.trans further.tail, fun plain => further.trans (later.2 plain)⟩
    · exact blanks

/-- A key is passed when no quotation mark follows. -/
theorem comes_key (cs : List Char) : Comes room cs (fun p => PassesKey cs p.2) (readKey cs) :=
  comes_keyParts ..

/-! ### Numbers -/

/-- Grouped digits stand at the front of what is read, with underscores between them. -/
def Fronts (p : Char → Bool) (cs : List Char) (taken : List Char × List Char) : Prop :=
  ∃ run, run ++ taken.2 = cs ∧ run.countP p = taken.1.length ∧ ∀ c ∈ run, p c = true ∨ c = '_'

theorem Fronts.none (p : Char → Bool) (cs : List Char) : Fronts p cs ([], cs) :=
  ⟨[], rfl, rfl, fun _ inside => absurd inside List.not_mem_nil⟩

theorem Fronts.passes {p : Char → Bool} {taken : List Char × List Char}
    (apart : (marks.all fun c => !p c) = true) (fronts : Fronts p cs taken) :
    Passes 0 cs taken.2 := by
  obtain ⟨run, rfl, _, plain⟩ := fronts
  refine .flats run (fun c inside => ?_) taken.2
  rcases plain c inside with digit | rfl
  · exact not_mem_marks apart digit
  · decide

theorem fronts_grouped {p : Char → Bool} (bar : p '_' = false) (cs : List Char) :
    Fronts p cs (takeGrouped p cs) := by
  fun_induction takeGrouped p cs with
  | case1 d rest digit ds tail found ih =>
    obtain ⟨run, whole, count, plain⟩ := found ▸ ih
    refine ⟨'_' :: d :: run, congrArg (fun l => '_' :: d :: l) whole, ?_, ?_⟩
    · simp [bar, digit, count]
    · exact List.forall_mem_cons.mpr ⟨.inr rfl, List.forall_mem_cons.mpr ⟨.inl digit, plain⟩⟩
  | case3 d rest _ digit ds tail found ih =>
    obtain ⟨run, whole, count, plain⟩ := found ▸ ih
    refine ⟨d :: run, congrArg (d :: ·) whole, ?_, ?_⟩
    · simp [digit, count]
    · exact List.forall_mem_cons.mpr ⟨.inl digit, plain⟩
  | _ => exact .none p _

theorem fronts_digits {p : Char → Bool} (bar : p '_' = false) (cs : List Char) :
    Fronts p cs (takeDigits p cs) := by
  unfold takeDigits
  split
  · exact .none p _
  · exact fronts_grouped bar cs

theorem passes_digits (cs : List Char) : Passes 0 cs (takeDigits Char.isDigit cs).2 :=
  (fronts_digits rfl cs).passes (by decide)

theorem passes_sign (cs : List Char) : Passes 0 cs (Binary64.takeSign cs).2 := by
  unfold Binary64.takeSign
  split
  · exact .flat (by decide) _
  · exact .flat (by decide) _
  · exact .refl cs

theorem passes_fraction (cs : List Char) : Passes 0 cs (takeFraction cs).2 := by
  unfold takeFraction
  split
  · rename_i rest
    dsimp only
    split_ifs
    · exact .refl _
    · exact (Passes.flat (by decide) rest).trans (passes_digits rest)
  · exact .refl _

theorem passes_exponent (cs : List Char) : Passes 0 cs (takeExponent cs).2 := by
  unfold takeExponent
  split
  · rename_i mark rest
    split
    · rename_i marks
      have flat : Passes 0 (mark :: rest) rest := by
        rcases marks with rfl | rfl
        · exact .flat (by decide) rest
        · exact .flat (by decide) rest
      dsimp only
      split
      · exact .refl _
      · exact (flat.trans (passes_sign rest)).trans (passes_digits _)
    · exact .refl _
  · exact .refl _

theorem passes_based {found : Nat × List Char} (read : readBased? cs = some found) :
    Passes 0 cs found.2 := by
  have based {p : Char → Bool} {base : Nat} {mark : Char} {rest : List Char} (bar : p '_' = false)
      (apart : (marks.all fun c => !p c) = true) (flat : mark ∉ marks)
      (read : (if (takeDigits p rest).1.isEmpty then none else
        some ((takeDigits p rest).1.foldl
          (fun acc c => acc * base + (Json.hexDigit? c).getD 0) 0, (takeDigits p rest).2)) =
        some found) : Passes 0 (mark :: rest) found.2 := by
    split at read
    · cases read
    · cases read
      exact (Passes.flat flat rest).trans ((fronts_digits bar rest).passes apart)
  unfold readBased? at read
  split at read
  · exact based (by decide) (by decide) (by decide) read
  · exact based (by decide) (by decide) (by decide) read
  · exact based (by decide) (by decide) (by decide) read
  · cases read

theorem fronts_whole (cs : List Char) : Fronts Char.isDigit cs (takeWhole cs) := by
  unfold takeWhole
  split
  · exact ⟨['0'], rfl, rfl, fun c inside => .inl (List.mem_singleton.mp inside ▸ rfl)⟩
  · exact fronts_digits rfl cs

theorem Fronts.hasOversized {taken : List Char × List Char}
    (fronts : Fronts Char.isDigit cs taken) (many : Json.maxDigits < taken.1.length) :
    HasOversized taken.1.length cs := by
  obtain ⟨run, whole, count, plain⟩ := fronts
  exact ⟨many, run, ⟨[], taken.2, whole⟩, count, plain⟩

/-- A decimal number is given up only for the digits of its whole part. -/
theorem comes_decimal {found : Except Failure Value × List Char}
    (read : readDecimal? cs = some found) :
    Comes room cs (fun _ => Passes 0 cs found.2) found.1 := by
  have signed := passes_sign cs
  have fronts := fronts_whole (Binary64.takeSign cs).2
  have left :
      Passes 0 cs (takeExponent (takeFraction (takeWhole (Binary64.takeSign cs).2).2).2).2 :=
    ((signed.trans (fronts.passes (by decide))).trans (passes_fraction _)).trans (passes_exponent _)
  simp only [readDecimal?, Option.ite_none_left_eq_some] at read
  obtain ⟨_, read⟩ := read
  split at read
  · cases read
    dsimp only
    split
    · rename_i many
      exact (fronts.hasOversized many).widen signed.tail.isInfix
    · exact left
  · cases read
    exact left

theorem reads_plainNumber (cs : List Char) : Reads room 0 cs (readNumber.plain cs) := by
  unfold readNumber.plain
  split
  · rename_i v rest found
    exact (comes_decimal found).map fun _ left => left
  · have signed := passes_sign cs
    split
    · rename_i negative rest found
      rw [found] at signed
      exact signed.trans (Passes.flats ['i', 'n', 'f'] (by simp [marks]) rest)
    · rename_i negative rest found
      rw [found] at signed
      exact signed.trans (Passes.flats ['n', 'a', 'n'] (by simp [marks]) rest)
    · trivial

theorem reads_number (cs : List Char) : Reads room 0 cs (readNumber cs) := by
  unfold readNumber
  split
  · rename_i rest
    split
    · rename_i n tail found
      exact (Passes.flat (by decide) rest).trans (passes_based found)
    · exact reads_plainNumber _
  · exact reads_plainNumber _

/-! ### Dates and times -/

theorem passes_fixedDigits {k : Nat} {found : Nat × List Char}
    (read : fixedDigits? k cs = some found) : Passes 0 cs found.2 := by
  simp only [fixedDigits?, Option.ite_none_right_eq_some] at read
  obtain ⟨⟨_, digits⟩, read⟩ := read
  cases read
  have flats : ∀ c ∈ cs.take k, c ∉ marks := fun c inside =>
    not_mem_marks (by decide) (List.all_eq_true.mp digits c inside)
  have passes := Passes.flats _ flats (cs.drop k)
  rwa [List.take_append_drop] at passes

theorem passes_expect {c : Char} (flat : c ∉ marks) (read : expect? c cs = some rest) :
    Passes 0 cs rest := by
  unfold expect? at read
  split at read
  · split at read
    · rename_i same
      cases read
      exact .flat (same ▸ flat) _
    · cases read
  · cases read

theorem passes_twoDigits {low limit : Nat} {found : Nat × List Char}
    (read : twoDigits? low limit cs = some found) : Passes 0 cs found.2 := by
  simp only [twoDigits?, Option.bind_eq_bind, Option.bind_eq_some_iff] at read
  obtain ⟨⟨n, rest⟩, digits, read⟩ := read
  split at read
  · cases read
    exact passes_fixedDigits digits
  · cases read

theorem passes_clock {found : Clock × List Char} (read : readClock? cs = some found) :
    Passes 0 cs found.2 := by
  simp only [readClock?, Option.bind_eq_bind, Option.bind_eq_some_iff] at read
  obtain ⟨⟨hour, r₁⟩, h₁, r₂, h₂, ⟨minute, r₃⟩, h₃, r₄, h₄, ⟨second, r₅⟩, h₅, read⟩ := read
  have hours : Passes 0 cs r₂ := (passes_twoDigits h₁).trans (passes_expect (by decide) h₂)
  have minutes : Passes 0 cs r₄ :=
    hours.trans ((passes_twoDigits h₃).trans (passes_expect (by decide) h₄))
  have behind : Passes 0 cs r₅ := minutes.trans (passes_twoDigits h₅)
  dsimp only at read
  split at read
  · rename_i tail
    split at read
    · cases read
      exact behind
    · cases read
      exact (behind.trans (.flat (by decide) tail)).trans (Passes.dropWhile (by decide) tail)
  · cases read
    exact behind

theorem passes_offset (cs : List Char) : Passes 0 cs (readOffset cs).2 := by
  unfold readOffset
  split
  · rename_i c rest
    split
    · rename_i marks
      rcases marks with rfl | rfl
      · exact .flat (by decide) rest
      · exact .flat (by decide) rest
    · split
      · rename_i signs
        have behind : Passes 0 (c :: rest) rest := by
          rcases signs with rfl | rfl
          · exact .flat (by decide) rest
          · exact .flat (by decide) rest
        dsimp only
        split
        · rename_i n left found
          simp only [Option.bind_eq_bind, Option.bind_eq_some_iff] at found
          obtain ⟨⟨hour, r₁⟩, h₁, r₂, h₂, ⟨minute, r₃⟩, h₃, found⟩ := found
          cases found
          exact ((behind.trans (passes_twoDigits h₁)).trans (passes_expect (by decide) h₂)).trans
            (passes_twoDigits h₃)
        · exact .refl _
      · exact .refl _
  · exact .refl _

theorem passes_date {found : Date × List Char} (read : readDate? cs = some found) :
    Passes 0 cs found.2 := by
  simp only [readDate?, Option.bind_eq_bind, Option.bind_eq_some_iff] at read
  obtain ⟨⟨year, r₁⟩, h₁, r₂, h₂, ⟨month, r₃⟩, h₃, r₄, h₄, ⟨day, r₅⟩, h₅, read⟩ := read
  cases read
  have years : Passes 0 cs r₂ := (passes_fixedDigits h₁).trans (passes_expect (by decide) h₂)
  exact years.trans ((passes_twoDigits h₃).trans
    ((passes_expect (by decide) h₄).trans (passes_twoDigits h₅)))

theorem passes_moment {found : Date × Moment × List Char}
    (read : readMoment? cs = some found) : Passes 0 cs found.2.2 := by
  simp only [readMoment?, Option.bind_eq_bind, Option.bind_eq_some_iff] at read
  obtain ⟨⟨d, r₁⟩, h₁, read⟩ := read
  have date : Passes 0 cs r₁ := passes_date h₁
  dsimp only at read
  split at read
  · rename_i mark tail
    split at read
    · rename_i joins
      have behind : Passes 0 (mark :: tail) tail := by
        rcases joins with rfl | rfl | rfl
        · exact .flat (by decide) tail
        · exact .flat (by decide) tail
        · exact .flat (by decide) tail
      split at read
      · rename_i t r₂ h₂
        cases read
        exact ((date.trans behind).trans (passes_clock h₂)).trans (passes_offset r₂)
      · cases read
        exact date
    · cases read
      exact date
  · cases read
    exact date

theorem reads_plain (cs : List Char) : Reads room 0 cs (readPlain cs) := by
  unfold readPlain
  split
  · rename_i d m rest found
    split
    · exact passes_moment found
    · trivial
  · split
    · rename_i t rest found
      exact passes_clock found
    · exact reads_number cs

/-! ### Digits in a row -/

variable {c : Char} {ds : List Char}

theorem takeGrouped_digits (digits : ∀ d ∈ ds, d.isDigit = true) :
    takeGrouped Char.isDigit ds = (ds, []) := by
  induction ds with
  | nil => rfl
  | cons d ds ih =>
    obtain ⟨digit, digits⟩ := List.forall_mem_cons.mp digits
    have plain : ∀ e rest, d = '_' → ds = e :: rest → False := by
      rintro e rest rfl _
      exact absurd digit (by decide)
    rw [takeGrouped.eq_2 Char.isDigit d ds plain, if_pos digit, ih digits]

theorem takeSign_digit (digit : c.isDigit = true) :
    Binary64.takeSign (c :: ds) = (false, c :: ds) := by
  unfold Binary64.takeSign
  split
  · rename_i minus
    exact absurd (List.cons.inj minus).1 (Json.ne_of_isDigit digit (by decide))
  · rename_i plus
    exact absurd (List.cons.inj plus).1 (Json.ne_of_isDigit digit (by decide))
  · rfl

theorem takeWhole_digits (leading : c ≠ '0') (digits : ∀ d ∈ c :: ds, d.isDigit = true) :
    takeWhole (c :: ds) = (c :: ds, []) := by
  have digit := digits c List.mem_cons_self
  unfold takeWhole
  split
  · rename_i zero
    exact absurd (List.cons.inj zero).1 leading
  · unfold takeDigits
    split
    · rename_i bar
      exact absurd (List.cons.inj bar).1 (Json.ne_of_isDigit digit (by decide))
    · exact takeGrouped_digits digits

theorem readNumber_oversized (leading : c ≠ '0') (digits : ∀ d ∈ c :: ds, d.isDigit = true)
    (many : Json.maxDigits < (c :: ds).length) :
    readNumber (c :: ds) = .error (.oversizedInteger (c :: ds).length) := by
  have decimal :
      readDecimal? (c :: ds) = some (.error (.oversizedInteger (c :: ds).length), []) := by
    simp only [readDecimal?, takeSign_digit (digits c List.mem_cons_self),
      takeWhole_digits leading digits]
    simpa [takeFraction, takeExponent] using many
  have plain : readNumber.plain (c :: ds) = .error (.oversizedInteger (c :: ds).length) := by
    unfold readNumber.plain
    rw [decimal]
    rfl
  unfold readNumber
  split
  · rename_i zero
    exact absurd (List.cons.inj zero).1 leading
  · exact plain

/-- Digits in a row are neither a date nor a time. -/
theorem expect?_digits {e : Char} (other : e.isDigit = false)
    (digits : ∀ d ∈ ds, d.isDigit = true) :
    expect? e ds = none := by
  unfold expect?
  split
  · rename_i d rest
    rw [if_neg (Json.ne_of_isDigit (digits d List.mem_cons_self) other)]
  · rfl

theorem readPlain_digits (digits : ∀ d ∈ ds, d.isDigit = true) : readPlain ds = readNumber ds := by
  have noDate : readDate? ds = none := by
    cases read : fixedDigits? 4 ds with
    | none => simp [readDate?, read]
    | some found =>
      have dash : expect? '-' found.2 = none := expect?_digits (by decide) fun d inside =>
        digits d ((passes_fixedDigits read).tail.subset inside)
      simp [readDate?, read, dash]
  have noClock : readClock? ds = none := by
    cases read : twoDigits? 0 23 ds with
    | none => simp [readClock?, read]
    | some found =>
      have colon : expect? ':' found.2 = none := expect?_digits (by decide) fun d inside =>
        digits d ((passes_twoDigits read).tail.subset inside)
      simp [readClock?, read, colon]
  simp [readPlain, readMoment?, noDate, noClock]

end CredoAssistant.Toml
