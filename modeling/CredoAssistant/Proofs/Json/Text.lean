import CredoAssistant.Json.Writer
import CredoAssistant.Proofs.Json.Grammar

/-!
Texts in JSON. What is written for a character stands for it: the character itself, a short escape,
a unit of four hexadecimal digits, or a pair of them.
-/
namespace CredoAssistant.Json

/-- The hexadecimal digits of `n`, filled up with zeros to `k` places. -/
def padded (k n : Nat) : List Char :=
  List.replicate (k - (Nat.toDigits 16 n).length) '0' ++ Nat.toDigits 16 n

theorem padded_one {n : Nat} (digit : n < 16) : padded 1 n = [n.digitChar] := by
  simp [padded, Nat.toDigits_of_lt_base digit]

theorem padded_succ {k : Nat} (places : 0 < k) (n : Nat) :
    padded (k + 1) n = padded k (n / 16) ++ [(n % 16).digitChar] := by
  by_cases small : n < 16
  · have filled : List.replicate (k - 1) '0' ++ ['0'] = List.replicate k '0' := by
      rw [← List.replicate_succ', Nat.sub_add_cancel places]
    simp only [padded, Nat.div_eq_of_lt small, Nat.mod_eq_of_lt small,
      Nat.toDigits_of_lt_base small, Nat.toDigits_zero, List.length_singleton,
      Nat.add_sub_cancel]
    rw [filled]
  · have split := Nat.toDigits_of_base_le (b := 16) (n := n) (by decide) (Nat.le_of_not_lt small)
    simp only [padded, split, List.length_append, List.length_singleton, Nat.add_sub_add_right,
      List.append_assoc]

/-- An escape shows the four hexadecimal digits of its unit. -/
theorem unitEscape_eq {n : Nat} (unit : n < 0x10000) :
    unitEscape n = ['\\', 'u', (n / 16 / 16 / 16).digitChar, (n / 16 / 16 % 16).digitChar,
      (n / 16 % 16).digitChar, (n % 16).digitChar] := by
  have front : n / 16 / 16 / 16 < 16 := by omega
  have digits : padded 4 n = [(n / 16 / 16 / 16).digitChar, (n / 16 / 16 % 16).digitChar,
      (n / 16 % 16).digitChar, (n % 16).digitChar] := by
    rw [padded_succ (by decide), padded_succ (by decide), padded_succ (by decide),
      padded_one front]
    rfl
  exact congrArg (fun ds => '\\' :: 'u' :: ds) digits

theorem hexDigit?_digitChar : ∀ n < 16, hexDigit? n.digitChar = some n := by decide

theorem unit?_digitChars {n : Nat} (unit : n < 0x10000) :
    unit? (n / 16 / 16 / 16).digitChar (n / 16 / 16 % 16).digitChar (n / 16 % 16).digitChar
      (n % 16).digitChar = some n := by
  have digit (m : Nat) : hexDigit? (m % 16).digitChar = some (m % 16) :=
    hexDigit?_digitChar _ (Nat.mod_lt m (by decide))
  have front := hexDigit?_digitChar (n / 16 / 16 / 16) (by omega)
  have value :
      ((n / 16 / 16 / 16 * 16 + n / 16 / 16 % 16) * 16 + n / 16 % 16) * 16 + n % 16 = n := by
    omega
  simp only [unit?, front, digit, Option.bind_eq_bind, Option.bind_some, value]

variable {cs s : List Char} {c : Char}

/-- A character of the basic plane is that of its unit. -/
theorem unitChar_toNat (basic : c.toNat < 0x10000) :
    isHighSurrogate c.toNat = false ∧ unitChar c.toNat = c := by
  have scalar : c.toNat.isValidChar := c.valid
  have apart : isHighSurrogate c.toNat = false ∧ isLowSurrogate c.toNat = false := by
    simp only [isHighSurrogate, isLowSurrogate, Bool.and_eq_false_iff, decide_eq_false_iff_not]
    rcases scalar with below | ⟨above, _⟩ <;> omega
  refine ⟨apart.1, ?_⟩
  simp only [unitChar, apart.1, apart.2, Bool.or_false, Bool.false_eq_true, if_false,
    Char.ofNat_toNat]

theorem toNat_lt (c : Char) : c.toNat < 0x110000 := by
  have scalar : c.toNat.isValidChar := c.valid
  rcases scalar with below | ⟨_, below⟩ <;> omega

/-- A character beyond the basic plane is that of its pair. -/
theorem pairChar_toNat (beyond : 0x10000 ≤ c.toNat) :
    isHighSurrogate (0xD800 + (c.toNat - 0x10000) / 0x400) = true ∧
      isLowSurrogate (0xDC00 + (c.toNat - 0x10000) % 0x400) = true ∧
      pairChar (0xD800 + (c.toNat - 0x10000) / 0x400)
        (0xDC00 + (c.toNat - 0x10000) % 0x400) = c := by
  have last := toNat_lt c
  refine ⟨?_, ?_, ?_⟩
  · simp only [isHighSurrogate, Bool.and_eq_true, decide_eq_true_eq]
    omega
  · simp only [isLowSurrogate, Bool.and_eq_true, decide_eq_true_eq]
    omega
  · have value : 0x10000 + (0xD800 + (c.toNat - 0x10000) / 0x400 - 0xD800) * 0x400 +
        (0xDC00 + (c.toNat - 0x10000) % 0x400 - 0xDC00) = c.toNat := by omega
    rw [pairChar, value, Char.ofNat_toNat]

/-- What is written for a character stands for that character. -/
theorem spells_escapeChar (later : Spells cs s) : Spells (escapeChar c ++ cs) (c :: s) := by
  unfold escapeChar
  split
  · rename_i mark
    rcases mark with rfl | rfl
    · exact .escape rfl later
    · exact .escape rfl later
  rename_i mark
  iterate 5
    split
    · subst c
      exact .escape rfl later
  dsimp only
  split
  · rename_i printable
    rw [not_or] at mark
    exact .plain mark.1 mark.2 printable.1 later
  split
  · rename_i basic
    obtain ⟨high, same⟩ := unitChar_toNat basic
    have spelled :=
      Spells.unit (unit?_digitChars basic) (fun upper => by simp [high] at upper) later
    rw [same] at spelled
    rwa [unitEscape_eq basic]
  · rename_i beyond
    obtain ⟨upper, lower, same⟩ := pairChar_toNat (Nat.le_of_not_lt beyond)
    have last := toNat_lt c
    have first : 0xD800 + (c.toNat - 0x10000) / 0x400 < 0x10000 := by omega
    have second : 0xDC00 + (c.toNat - 0x10000) % 0x400 < 0x10000 := by omega
    have spelled := Spells.pair (unit?_digitChars first) upper (unit?_digitChars second) lower later
    rw [same] at spelled
    rwa [unitEscape_eq first, unitEscape_eq second]

/-- What is written for a text stands for it. -/
theorem spells_flatMap (s : List Char) : Spells (s.flatMap escapeChar) s := by
  induction s with
  | nil => exact .done
  | cons c s ih => exact spells_escapeChar ih

end CredoAssistant.Json
