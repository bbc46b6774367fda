import CredoAssistant.Proofs.Json.Grammar

/-!
How deep the brackets of a text nest, found without reading it. The reader takes room for every
bracket that it opens and gives it back at the closing one. So it gives up on a bracket only in a
text that nests deeper than there is room for, and a text that it reads does not.
-/
namespace CredoAssistant.Json

variable {α β : Type} {stack : Stack} {cs rest : List Char} {room closing : Nat}

/-- The greatest number of brackets that a text leaves open at a place in it. Between quotation
marks nothing counts. -/
def nesting : List Char → Nat
  | [] => 0
  | c :: rest =>
    if c = '"' then nesting (afterText rest)
    else if c = '[' ∨ c = '{' then nesting rest + 1
    else if c = ']' ∨ c = '}' then nesting rest - 1
    else nesting rest
termination_by cs => cs.length
decreasing_by
  · exact Nat.lt_succ_of_le (afterText_suffix rest).length_le
  · exact Nat.lt_succ_self _
  · exact Nat.lt_succ_self _
  · exact Nat.lt_succ_self _

theorem nesting_cons (c : Char) (rest : List Char) : nesting (c :: rest) =
    if c = '"' then nesting (afterText rest)
    else if c = '[' ∨ c = '{' then nesting rest + 1
    else if c = ']' ∨ c = '}' then nesting rest - 1
    else nesting rest := by
  rw [nesting]

/-- A character that neither nests nor quotes. -/
def IsFlat (c : Char) : Prop := c ≠ '"' ∧ c ≠ '[' ∧ c ≠ '{' ∧ c ≠ ']' ∧ c ≠ '}'

instance (c : Char) : Decidable (IsFlat c) := inferInstanceAs (Decidable (_ ∧ _ ∧ _ ∧ _ ∧ _))

@[simp] theorem nesting_nil : nesting [] = 0 := by rw [nesting]

@[simp] theorem nesting_text : nesting ('"' :: cs) = nesting (afterText cs) := by
  rw [nesting_cons, if_pos rfl]

@[simp] theorem nesting_list : nesting ('[' :: cs) = nesting cs + 1 := by simp [nesting_cons]

@[simp] theorem nesting_object : nesting ('{' :: cs) = nesting cs + 1 := by simp [nesting_cons]

@[simp] theorem nesting_endList : nesting (']' :: cs) = nesting cs - 1 := by simp [nesting_cons]

@[simp] theorem nesting_endObject : nesting ('}' :: cs) = nesting cs - 1 := by simp [nesting_cons]

theorem nesting_flat {c : Char} (flat : IsFlat c) : nesting (c :: cs) = nesting cs := by
  obtain ⟨text, list, object, endList, endObject⟩ := flat
  simp [nesting_cons, text, list, object, endList, endObject]

theorem nesting_append {word : List Char} (flat : ∀ c ∈ word, IsFlat c) :
    nesting (word ++ rest) = nesting rest := by
  induction word with
  | nil => rfl
  | cons c word ih =>
    obtain ⟨first, flat⟩ := List.forall_mem_cons.mp flat
    exact (nesting_flat first).trans (ih flat)

/-! ### Parts without brackets -/

theorem isFlat_of_isDigit {c : Char} (digit : c.isDigit = true) : IsFlat c :=
  ⟨ne_of_isDigit digit rfl, ne_of_isDigit digit rfl, ne_of_isDigit digit rfl,
    ne_of_isDigit digit rfl, ne_of_isDigit digit rfl⟩

theorem isFlat_of_isSpace {c : Char} (blank : isSpace c = true) : IsFlat c := by
  simp only [isSpace, Bool.or_eq_true, beq_iff_eq] at blank
  rcases blank with ((rfl | rfl) | rfl) | rfl
  all_goals decide

theorem nesting_blank {gap : List Char} (blank : Blank gap) :
    nesting (gap ++ cs) = nesting cs :=
  nesting_append fun c inside => isFlat_of_isSpace (blank c inside)

theorem nesting_skip (cs : List Char) : nesting (skip cs) = nesting cs := by
  have blank : Blank (cs.takeWhile isSpace) := fun _ => List.mem_takeWhile_imp
  have joined : nesting (cs.takeWhile isSpace ++ skip cs) = nesting (skip cs) := nesting_blank blank
  rwa [skip, List.takeWhile_append_dropWhile, ← skip, eq_comm] at joined

theorem isFlat_words : ∀ w ∈ words, ∀ c ∈ w.1, IsFlat c := by
  simp only [words, List.forall_mem_cons]
  simp [IsFlat]

theorem Fraction.isFlat {point ds : List Char} (pointed : Fraction point ds) :
    ∀ c ∈ point, IsFlat c := by
  cases pointed with
  | none => nofun
  | point nonempty digits =>
    exact List.forall_mem_cons.mpr ⟨by decide, fun c inside => isFlat_of_isDigit (digits c inside)⟩

theorem Sign.isFlat {sign : List Char} {below : Bool} (signed : Sign sign below) :
    ∀ c ∈ sign, IsFlat c := by
  cases signed with
  | none => nofun
  | plus => exact List.forall_mem_singleton.mpr (by decide)
  | minus => exact List.forall_mem_singleton.mpr (by decide)

theorem Exponent.isFlat {mark : List Char} {power : Option Int} (marked : Exponent mark power) :
    ∀ c ∈ mark, IsFlat c := by
  cases marked with
  | none => nofun
  | power marks signed nonempty digits =>
    refine List.forall_mem_cons.mpr ⟨?_, List.forall_mem_append.mpr
      ⟨signed.isFlat, fun c inside => isFlat_of_isDigit (digits c inside)⟩⟩
    rcases marks with rfl | rfl
    · decide
    · decide

theorem nesting_afterNumber (cs : List Char) : nesting (afterNumber cs) = nesting cs := by
  obtain ⟨point, pointJoined, pointed⟩ := fraction_takeFraction (takeWhole cs).2
  obtain ⟨mark, markJoined, marked⟩ := exponent_takeExponent (takeFraction (takeWhole cs).2).2
  have whole : ∀ c ∈ (takeWhole cs).1, IsFlat c := fun _ inside =>
    isFlat_of_isDigit (takeWhole_isDigit inside)
  calc nesting (afterNumber cs)
      = nesting (mark ++ afterNumber cs) := (nesting_append marked.isFlat).symm
    _ = nesting (takeFraction (takeWhole cs).2).2 := congrArg nesting markJoined.symm
    _ = nesting (point ++ (takeFraction (takeWhole cs).2).2) := (nesting_append pointed.isFlat).symm
    _ = nesting (takeWhole cs).2 := congrArg nesting pointJoined.symm
    _ = nesting ((takeWhole cs).1 ++ (takeWhole cs).2) := (nesting_append whole).symm
    _ = nesting cs := congrArg nesting (takeWhole_append cs)

/-! ### The room that the reader takes -/

/-- What a part of the reader that has some room comes to. It goes on behind as many closing
brackets, and what it took off the text fits; or it gives up on a bracket, for which there is no
room. -/
def Fits (room closing : Nat) (cs : List Char) : Except Failure (α × List Char) → Prop
  | .ok (_, rest) => ∃ taken ≤ room, nesting cs = max taken (nesting rest - closing)
  | .error (.tooDeep _) => room < nesting cs
  | .error _ => True

namespace Fits

variable {r : Except Failure (α × List Char)}

theorem ok {a : α} (same : nesting cs = nesting rest - closing) :
    Fits room closing cs (.ok (a, rest)) :=
  ⟨0, Nat.zero_le room, by rw [same, Nat.zero_max]⟩

/-- What stands in front without brackets takes no room. -/
theorem of_eq (fits : Fits room closing rest r) (same : nesting cs = nesting rest) :
    Fits room closing cs r := by
  match r, fits with
  | .ok (_, left), fits =>
    obtain ⟨taken, few, deep⟩ := fits
    exact ⟨taken, few, same.trans deep⟩
  | .error (.tooDeep _), fits => exact Nat.lt_of_lt_of_eq fits same.symm
  | .error (.oversizedInteger _), _ => trivial
  | .error (.malformed _ _), _ => trivial

/-- One part after the other. -/
theorem bind {f : α × List Char → Except Failure (β × List Char)} (fits : Fits room 0 cs r)
    (next : ∀ a rest, Fits room closing rest (f (a, rest))) :
    Fits room closing cs (r >>= f) := by
  match r, fits with
  | .ok (a, rest), ⟨taken, few, deep⟩ =>
    have later := next a rest
    change Fits room closing cs (f (a, rest))
    match f (a, rest), later with
    | .ok (_, left), ⟨more, little, behind⟩ => exact ⟨max taken more, by omega, by omega⟩
    | .error (.tooDeep _), later =>
      have higher : nesting rest ≤ nesting cs := by omega
      exact Nat.lt_of_lt_of_le later higher
    | .error (.oversizedInteger _), _ => trivial
    | .error (.malformed _ _), _ => trivial
  | .error (.tooDeep _), fits => exact fits
  | .error (.oversizedInteger _), _ => trivial
  | .error (.malformed _ _), _ => trivial

/-- What is made of the part that was read takes no room. -/
theorem map (f : α → β) (fits : Fits room closing cs r) :
    Fits room closing cs (r >>= fun found => .ok (f found.1, found.2)) := by
  match r, fits with
  | .ok (_, _), fits => exact fits
  | .error (.tooDeep _), fits => exact fits
  | .error (.oversizedInteger _), _ => trivial
  | .error (.malformed _ _), _ => trivial

/-- Inside of a bracket one level of room is gone; the closing bracket gives it back. -/
theorem enter {b : Bracket} {f : Nat → Except Failure (α × List Char)}
    (opened : nesting cs = nesting rest + 1) (inside : ∀ room, Fits room 1 rest (f room)) :
    Fits room 0 cs (enter b room >>= f) := by
  cases room with
  | zero => exact Nat.lt_of_lt_of_eq (Nat.succ_pos (nesting rest)) opened.symm
  | succ room =>
    have later := inside room
    change Fits (room + 1) 0 cs (f room)
    match f room, later with
    | .ok (_, left), ⟨taken, few, behind⟩ => exact ⟨taken + 1, by omega, by omega⟩
    | .error (.tooDeep _), later => exact Nat.lt_of_lt_of_eq (Nat.succ_lt_succ later) opened.symm
    | .error (.oversizedInteger _), _ => trivial
    | .error (.malformed _ _), _ => trivial

end Fits

theorem nesting_of_skip {found : List Char} (skipped : skip cs = found) :
    nesting cs = nesting found := by
  rw [← skipped, nesting_skip]

theorem fits_text (opening : Nat) (acc cs : List Char) :
    Fits room 0 ('"' :: cs) (readText opening acc cs) := by
  have closes := closes_text opening acc cs
  match readText opening acc cs, closes with
  | .ok (_, rest), closes =>
    obtain rfl : rest = afterText cs := closes
    exact Fits.ok nesting_text
  | .error (.malformed _ _), _ => trivial

theorem fits_number (cs : List Char) : Fits room 0 cs (readNumber cs) := by
  unfold readNumber
  split
  rename_i negative body signed
  have same : nesting cs = nesting body := by
    split at signed
    · cases signed
      exact nesting_flat (by decide)
    · cases signed
      rfl
  refine Fits.of_eq ?_ same
  dsimp only
  split
  · trivial
  · split
    · split
      · trivial
      · exact Fits.ok (nesting_afterNumber body).symm
    · exact Fits.ok (nesting_afterNumber body).symm

theorem fits_items {fuel : Nat} (value : ∀ cs, Fits room 0 cs (readValue fuel room cs))
    (items : ∀ acc cs, Fits room 1 cs (readItems fuel room acc cs)) (acc : List Value)
    (cs : List Char) : Fits room 1 cs (readItems (fuel + 1) room acc cs) := by
  rw [readItems]
  refine (value cs).bind fun v rest => ?_
  dsimp only
  split
  · rename_i left found
    exact Fits.ok ((nesting_of_skip found).trans nesting_endList)
  · rename_i left found
    refine Fits.of_eq (items _ _) ((nesting_of_skip found).trans ?_)
    rw [nesting_flat (by decide), nesting_skip]
  · trivial

theorem fits_members {fuel : Nat} (value : ∀ cs, Fits room 0 cs (readValue fuel room cs))
    (members : ∀ acc cs, Fits room 1 cs (readMembers fuel room acc cs))
    (acc : List (String × Value)) (cs : List Char) :
    Fits room 1 cs (readMembers (fuel + 1) room acc cs) := by
  rw [readMembers.eq_def]
  dsimp only
  split
  · rename_i rest
    refine (fits_text _ _ rest).bind fun k left => ?_
    dsimp only
    split
    · rename_i colon found
      have passed : nesting left = nesting (skip colon) := by
        rw [nesting_of_skip found, nesting_flat (by decide), nesting_skip]
      refine Fits.of_eq ((value (skip colon)).bind fun v rest => ?_) passed
      dsimp only
      split
      · rename_i last found
        exact Fits.ok ((nesting_of_skip found).trans nesting_endObject)
      · rename_i last found
        refine Fits.of_eq (members _ _) ((nesting_of_skip found).trans ?_)
        rw [nesting_flat (by decide), nesting_skip]
      · trivial
    · trivial
  · trivial

theorem fits_value {fuel : Nat}
    (items : ∀ room acc cs, Fits room 1 cs (readItems fuel room acc cs))
    (members : ∀ room acc cs, Fits room 1 cs (readMembers fuel room acc cs)) (room : Nat)
    (cs : List Char) : Fits room 0 cs (readValue (fuel + 1) room cs) := by
  rw [readValue.eq_def]
  dsimp only
  split
  · rename_i rest
    exact (fits_text _ _ rest).bind fun s left => Fits.ok rfl
  · rename_i rest
    refine Fits.enter nesting_object fun room => ?_
    split
    · rename_i left found
      exact Fits.ok ((nesting_of_skip found).trans nesting_endObject)
    · have fits := (members room [] (skip rest)).map fun ms => Value.object (Entries.ofPairs ms)
      exact fits.of_eq (nesting_skip rest).symm
  · rename_i rest
    refine Fits.enter nesting_list fun room => ?_
    split
    · rename_i left found
      exact Fits.ok ((nesting_of_skip found).trans nesting_endList)
    · have fits := (items room [] (skip rest)).map Value.list
      exact fits.of_eq (nesting_skip rest).symm
  · split
    · rename_i found front
      obtain ⟨word, known, rfl⟩ := readWord?_eq_some front
      exact Fits.ok (nesting_append (isFlat_words _ known))
    · exact fits_number cs

/-- The three readers of nested values, by the fuel they share. -/
theorem fits_nested (fuel : Nat) :
    (∀ room cs, Fits room 0 cs (readValue fuel room cs)) ∧
      (∀ room acc cs, Fits room 1 cs (readItems fuel room acc cs)) ∧
      ∀ room acc cs, Fits room 1 cs (readMembers fuel room acc cs) := by
  induction fuel with
  | zero =>
    refine ⟨fun room cs => ?_, fun room acc cs => ?_, fun room acc cs => ?_⟩
    · simp only [readValue, Fits]
    · simp only [readItems, Fits]
    · simp only [readMembers, Fits]
  | succ fuel ih =>
    obtain ⟨value, items, members⟩ := ih
    exact ⟨fits_value items members, fun room => fits_items (value room) (items room),
      fun room => fits_members (value room) (members room)⟩

/-- A text that is read nests no deeper than there is room. -/
theorem nesting_le_of_read {v : Value} (decoded : read stack cs = .ok v) :
    nesting cs ≤ stack.levels := by
  obtain ⟨rest, found, last⟩ := readValue_of_read decoded
  have fits := (fits_nested (2 * cs.length + 2)).1 stack.levels (skip cs)
  rw [found] at fits
  obtain ⟨taken, few, deep⟩ := fits
  have ended : nesting rest = 0 := by rw [← nesting_skip, last, nesting_nil]
  rw [nesting_skip] at deep
  omega

/-- The reader gives up on a bracket only in a text that nests too deep. -/
theorem lt_nesting_of_read {b : Bracket} (failed : read stack cs = .error (.tooDeep b)) :
    stack.levels < nesting cs := by
  unfold read at failed
  split at failed
  · cases failed
  · have value := (fits_nested (2 * cs.length + 2)).1 stack.levels (skip cs)
    rw [← nesting_skip]
    generalize readValue (2 * cs.length + 2) stack.levels (skip cs) = result at value failed
    match result, value with
    | .ok (v, rest), _ =>
      simp only [bind, Except.bind] at failed
      split at failed
      · cases failed
      · cases failed
    | .error f, value =>
      cases failed
      exact value

/-- Brackets that are never closed are given up at the first one without room. -/
theorem readValue_unclosed {fuel n : Nat} (deep : room < n) (enough : 2 * room < fuel) :
    readValue fuel room (List.replicate n '[') = .error (.tooDeep .list) := by
  induction room generalizing fuel n with
  | zero =>
    obtain ⟨n, rfl⟩ := Nat.exists_eq_succ_of_ne_zero (Nat.ne_of_gt deep)
    obtain ⟨fuel, rfl⟩ := Nat.exists_eq_succ_of_ne_zero (Nat.ne_of_gt enough)
    rw [List.replicate_succ, readValue]
    rfl
  | succ room ih =>
    obtain ⟨n, rfl⟩ := Nat.exists_eq_add_of_le' (show 2 ≤ n by omega)
    obtain ⟨fuel, rfl⟩ := Nat.exists_eq_add_of_le' (show 2 ≤ fuel by omega)
    have inside := @ih fuel (n + 1) (by omega) (by omega)
    rw [List.replicate_succ] at inside
    have first : skip ('[' :: List.replicate n '[') = '[' :: List.replicate n '[' := rfl
    rw [List.replicate_succ, List.replicate_succ, readValue]
    simp only [enter, first, bind, Except.bind]
    split
    · rename_i same
      exact absurd (List.cons.inj same).1 (by decide)
    · rw [readItems, inside]
      rfl

theorem read_unclosed {n : Nat} (deep : stack.levels < n) :
    read stack (List.replicate n '[') = .error (.tooDeep .list) := by
  obtain ⟨n, rfl⟩ := Nat.exists_eq_succ_of_ne_zero (Nat.ne_of_gt (Nat.zero_lt_of_lt deep))
  have first : skip ('[' :: List.replicate n '[') = '[' :: List.replicate n '[' := rfl
  have value := @readValue_unclosed stack.levels (2 * (n + 1) + 2) (n + 1) deep (by omega)
  rw [List.replicate_succ] at value ⊢
  rw [read]
  · rw [List.length_cons, List.length_replicate, first, value]
    rfl
  · intro tail marked
    exact absurd (List.cons.inj marked).1 (by decide)

end CredoAssistant.Json
