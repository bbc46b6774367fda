import CredoAssistant.Text.Utf8
import Mathlib.Tactic.SplitIfs

/-!
UTF-8 read back. The bytes of a text decode to that text and to no other, and bytes that are not
those of a text do not decode: a character is met exactly where its bytes stand.
-/
namespace CredoAssistant.Utf8

variable {done : List Piece} {b x y z : UInt8} {rest : List UInt8} {n k : Nat} {c : Char}

/-! ### First bytes -/

theorem start_one (h : b.toNat < 0x80) : start b = ([.char (Char.ofNat b.toNat)], none) := by
  simp [start, h]

theorem start_two (low : 0xC2 ≤ b.toNat) (high : b.toNat < 0xE0) :
    start b = opening b 1 0x80 0xBF (b.toNat - 0xC0) := by
  unfold start
  rw [if_neg (by omega), if_neg (by omega), if_pos high]

/-- The bounds of the second byte leave out overlong forms and surrogates. -/
theorem start_three (h : b.toNat = 0xE0 + k) (small : k < 16) :
    start b = opening b 2 (if k = 0 then 0xA0 else 0x80) (if k = 13 then 0x9F else 0xBF) k := by
  unfold start
  simp only [h]
  rw [if_neg (by omega), if_neg (by omega), if_neg (by omega)]
  by_cases zero : k = 0
  · simp [zero]
  · by_cases thirteen : k = 13
    · simp [thirteen]
    · rw [if_neg (by omega), if_neg (by omega), if_pos (by omega), if_neg zero, if_neg thirteen,
        Nat.add_sub_cancel_left]

/-- The bounds of the second byte leave out overlong forms and what lies behind the last plane. -/
theorem start_four (h : b.toNat = 0xF0 + k) (small : k < 5) :
    start b = opening b 3 (if k = 0 then 0x90 else 0x80) (if k = 4 then 0x8F else 0xBF) k := by
  unfold start
  simp only [h]
  rw [if_neg (by omega), if_neg (by omega), if_neg (by omega), if_neg (by omega), if_neg (by omega),
    if_neg (by omega)]
  by_cases zero : k = 0
  · simp [zero]
  · by_cases four : k = 4
    · simp [four]
    · rw [if_neg (by omega), if_pos (by omega), if_neg zero, if_neg four, Nat.add_sub_cancel_left]

theorem start_invalid (h : 0x80 ≤ b.toNat ∧ b.toNat < 0xC2 ∨ 0xF5 ≤ b.toNat) :
    start b = ([.flaw ⟨b, 1, .startByte⟩], none) := by
  unfold start
  rcases h with ⟨low, high⟩ | h
  · rw [if_neg (by omega), if_pos high]
  · simp (disch := omega) only [if_neg]

/-! ### Bytes that follow -/

/-- The code point of a pending character so far, with a byte more. -/
def Pending.push (p : Pending) (b : UInt8) : Nat := p.bits * 64 + (b.toNat - 0x80)

/-- A pending character with a byte more. -/
def Pending.taking (p : Pending) (b : UInt8) : Pending :=
  ⟨p.first, p.read + 1, p.owed - 1, 0x80, 0xBF, p.push b⟩

theorem step_last {p : Pending} (takes : p.low ≤ b.toNat ∧ b.toNat ≤ p.high) (one : p.owed = 1) :
    step (some p) b = ([.char (Char.ofNat (p.push b))], none) := by
  unfold step
  dsimp only
  rw [if_pos takes, if_pos one]
  rfl

theorem step_next {p : Pending} (takes : p.low ≤ b.toNat ∧ b.toNat ≤ p.high) (more : p.owed ≠ 1) :
    step (some p) b = ([], some (p.taking b)) := by
  unfold step
  dsimp only
  rw [if_pos takes, if_neg more]
  rfl

theorem step_refused {p : Pending} (refused : ¬ (p.low ≤ b.toNat ∧ b.toNat ≤ p.high)) :
    step (some p) b =
      (.flaw ⟨p.first, p.read, .continuationByte⟩ :: (start b).1, (start b).2) := by
  simp only [step, if_neg refused]

theorem piecesFrom_silent {p q : Option Pending} (h : step p b = ([], q)) :
    piecesFrom done p (b :: rest) = piecesFrom done q rest := by
  rw [piecesFrom, h]
  rfl

theorem piecesFrom_piece {p q : Option Pending} {piece : Piece} (h : step p b = ([piece], q)) :
    piecesFrom done p (b :: rest) = piecesFrom (piece :: done) q rest := by
  rw [piecesFrom, h]
  rfl

/-- The pieces found before come first. -/
theorem piecesFrom_done (bytes : List UInt8) : ∀ (done : List Piece) (p : Option Pending),
    ∃ ps, piecesFrom done p bytes = done.reverse ++ ps := by
  induction bytes with
  | nil =>
    intro done p
    cases p with
    | none => exact ⟨[], (List.append_nil _).symm⟩
    | some p => exact ⟨[_], List.reverse_cons⟩
  | cons b rest ih =>
    intro done p
    obtain ⟨ps, found⟩ := ih ((step p b).1.reverse ++ done) (step p b).2
    refine ⟨(step p b).1 ++ ps, ?_⟩
    rw [piecesFrom, found]
    simp

/-- A flaw is met behind the pieces found before. -/
def Flawed (done : List Piece) (p : Option Pending) (bytes : List UInt8) : Prop :=
  ∃ f ps, piecesFrom done p bytes = done.reverse ++ .flaw f :: ps

theorem flawed_nil (p : Pending) : Flawed done (some p) [] := ⟨_, [], List.reverse_cons⟩

theorem flawed_of_refused {p : Pending} (refused : ¬ (p.low ≤ b.toNat ∧ b.toNat ≤ p.high)) :
    Flawed done (some p) (b :: rest) := by
  obtain ⟨ps, found⟩ := piecesFrom_done rest
    ((start b).1.reverse ++ .flaw ⟨p.first, p.read, .continuationByte⟩ :: done) (start b).2
  refine ⟨⟨p.first, p.read, .continuationByte⟩, (start b).1 ++ ps, ?_⟩
  rw [piecesFrom, step_refused refused]
  simp [found]

theorem flawed_of_start (h : 0x80 ≤ b.toNat ∧ b.toNat < 0xC2 ∨ 0xF5 ≤ b.toNat) :
    Flawed done none (b :: rest) := by
  obtain ⟨ps, found⟩ := piecesFrom_done rest (.flaw ⟨b, 1, .startByte⟩ :: done) none
  refine ⟨⟨b, 1, .startByte⟩, ps, ?_⟩
  rw [piecesFrom, step, start_invalid h]
  simpa using found

/-! ### Characters of several bytes -/

theorem step_opening {owed low high : Nat} (starts : start b = opening b owed low high k) :
    step none b = ([], some ⟨b, 1, owed, low, high, k⟩) := starts

theorem piecesFrom_two {low high : Nat} (starts : start b = opening b 1 low high k)
    (second : low ≤ x.toNat ∧ x.toNat ≤ high) :
    piecesFrom done none (b :: x :: rest) =
      piecesFrom (.char (Char.ofNat (k * 64 + (x.toNat - 0x80))) :: done) none rest := by
  rw [piecesFrom_silent (step_opening starts), piecesFrom_piece (step_last second rfl)]
  rfl

theorem piecesFrom_three {low high : Nat} (starts : start b = opening b 2 low high k)
    (second : low ≤ x.toNat ∧ x.toNat ≤ high) (third : 0x80 ≤ y.toNat ∧ y.toNat ≤ 0xBF) :
    piecesFrom done none (b :: x :: y :: rest) =
      piecesFrom (.char (Char.ofNat ((k * 64 + (x.toNat - 0x80)) * 64 + (y.toNat - 0x80))) :: done)
        none rest := by
  have more : (⟨b, 1, 2, low, high, k⟩ : Pending).owed ≠ 1 := Nat.succ_ne_self 1
  rw [piecesFrom_silent (step_opening starts), piecesFrom_silent (step_next second more),
    piecesFrom_piece (step_last third rfl)]
  rfl

theorem piecesFrom_four {low high : Nat} (starts : start b = opening b 3 low high k)
    (second : low ≤ x.toNat ∧ x.toNat ≤ high) (third : 0x80 ≤ y.toNat ∧ y.toNat ≤ 0xBF)
    (fourth : 0x80 ≤ z.toNat ∧ z.toNat ≤ 0xBF) :
    piecesFrom done none (b :: x :: y :: z :: rest) =
      piecesFrom (.char (Char.ofNat (((k * 64 + (x.toNat - 0x80)) * 64 + (y.toNat - 0x80)) * 64 +
        (z.toNat - 0x80))) :: done) none rest := by
  have more : (⟨b, 1, 3, low, high, k⟩ : Pending).owed ≠ 1 := by simp
  have next : (Pending.taking ⟨b, 1, 3, low, high, k⟩ x).owed ≠ 1 := by simp [Pending.taking]
  rw [piecesFrom_silent (step_opening starts), piecesFrom_silent (step_next second more),
    piecesFrom_silent (step_next third next), piecesFrom_piece (step_last fourth rfl)]
  rfl

theorem toNat_ofNat (h : n < 256) : (UInt8.ofNat n).toNat = n := by
  simpa using h

theorem toNat_continuation (n : Nat) : (continuation n).toNat = 0x80 + n % 64 :=
  toNat_ofNat (by omega)

theorem scalar (c : Char) : c.toNat < 0xD800 ∨ 0xDFFF < c.toNat ∧ c.toNat < 0x110000 := c.valid

/-- The bytes of a character are cut off as that character. -/
theorem piecesFrom_encodeChar (done : List Piece) (c : Char) (rest : List UInt8) :
    piecesFrom done none (encodeChar c ++ rest) = piecesFrom (.char c :: done) none rest := by
  have bounds := scalar c
  have back : Char.ofNat c.toNat = c := Char.ofNat_toNat c
  have following (m : Nat) : 0x80 ≤ (continuation m).toNat ∧ (continuation m).toNat ≤ 0xBF := by
    rw [toNat_continuation]
    omega
  unfold encodeChar
  generalize c.toNat = n at bounds back ⊢
  dsimp only
  split_ifs with one two three
  · have first := toNat_ofNat (n := n) (by omega)
    have starts := start_one (b := UInt8.ofNat n) (by omega)
    rw [first, back] at starts
    exact piecesFrom_piece starts
  · have first := toNat_ofNat (n := 0xC0 + n / 64) (by omega)
    have starts := start_two (b := UInt8.ofNat (0xC0 + n / 64)) (by omega) (by omega)
    have code : (0xC0 + n / 64 - 0xC0) * 64 + (0x80 + n % 64 - 0x80) = n := by omega
    have whole : piecesFrom done none (_ :: _ :: rest) = _ := piecesFrom_two starts (following n)
    rw [first, toNat_continuation, code, back] at whole
    exact whole
  · have first := toNat_ofNat (n := 0xE0 + n / 4096) (by omega)
    have starts := start_three first (by omega)
    have code :
        (n / 4096 * 64 + (0x80 + n / 64 % 64 - 0x80)) * 64 + (0x80 + n % 64 - 0x80) = n := by
      omega
    have second : (if n / 4096 = 0 then 0xA0 else 0x80) ≤ (continuation (n / 64)).toNat ∧
        (continuation (n / 64)).toNat ≤ if n / 4096 = 13 then 0x9F else 0xBF := by
      rw [toNat_continuation]
      split_ifs <;> omega
    have whole : piecesFrom done none (_ :: _ :: _ :: rest) = _ :=
      piecesFrom_three starts second (following n)
    rw [toNat_continuation, toNat_continuation, code, back] at whole
    exact whole
  · have first := toNat_ofNat (n := 0xF0 + n / 262144) (by omega)
    have starts := start_four first (by omega)
    have code : ((n / 262144 * 64 + (0x80 + n / 4096 % 64 - 0x80)) * 64 +
        (0x80 + n / 64 % 64 - 0x80)) * 64 + (0x80 + n % 64 - 0x80) = n := by
      omega
    have second : (if n / 262144 = 0 then 0x90 else 0x80) ≤ (continuation (n / 4096)).toNat ∧
        (continuation (n / 4096)).toNat ≤ if n / 262144 = 4 then 0x8F else 0xBF := by
      rw [toNat_continuation]
      split_ifs <;> omega
    have whole : piecesFrom done none (_ :: _ :: _ :: _ :: rest) = _ :=
      piecesFrom_four starts second (following (n / 64)) (following n)
    rw [toNat_continuation, toNat_continuation, toNat_continuation, code, back] at whole
    exact whole

/-! ### Bytes of characters -/

theorem toNat_char (h : n.isValidChar) : (Char.ofNat n).toNat = n := by
  rw [Char.ofNat, dif_pos h]
  rfl

theorem eq_ofNat (h : b.toNat = n) : UInt8.ofNat n = b := by
  rw [← h, UInt8.ofNat_toNat]

theorem eq_continuation (h : 0x80 ≤ b.toNat ∧ b.toNat ≤ 0xBF) (low : n % 64 = b.toNat - 0x80) :
    continuation n = b :=
  eq_ofNat (by omega)

theorem encodeChar_one (h : b.toNat < 0x80) : encodeChar (Char.ofNat b.toNat) = [b] := by
  unfold encodeChar
  rw [toNat_char (.inl (by omega))]
  simp [h]

theorem encodeChar_two (low : 0xC2 ≤ b.toNat) (high : b.toNat < 0xE0)
    (second : 0x80 ≤ x.toNat ∧ x.toNat ≤ 0xBF)
    (code : n = (b.toNat - 0xC0) * 64 + (x.toNat - 0x80)) : encodeChar (Char.ofNat n) = [b, x] := by
  have first : UInt8.ofNat (0xC0 + n / 64) = b := eq_ofNat (by omega)
  have last : continuation n = x := eq_continuation second (by omega)
  unfold encodeChar
  rw [toNat_char (.inl (by omega))]
  dsimp only
  rw [if_neg (by omega), if_pos (by omega), first, last]

theorem encodeChar_three (h : b.toNat = 0xE0 + k) (small : k < 16)
    (second : (if k = 0 then 0xA0 else 0x80) ≤ x.toNat ∧ x.toNat ≤ if k = 13 then 0x9F else 0xBF)
    (third : 0x80 ≤ y.toNat ∧ y.toNat ≤ 0xBF)
    (code : n = (k * 64 + (x.toNat - 0x80)) * 64 + (y.toNat - 0x80)) :
    encodeChar (Char.ofNat n) = [b, x, y] := by
  obtain ⟨least, greatest⟩ := second
  have wide : 0x80 ≤ x.toNat ∧ x.toNat ≤ 0xBF := by split_ifs at least greatest <;> omega
  have bounds : 0x800 ≤ n ∧ n < 0x10000 ∧ (n < 0xD800 ∨ 0xDFFF < n) := by
    split_ifs at least greatest <;> omega
  have first : UInt8.ofNat (0xE0 + n / 4096) = b := eq_ofNat (by omega)
  have middle : continuation (n / 64) = x := eq_continuation wide (by omega)
  have last : continuation n = y := eq_continuation third (by omega)
  unfold encodeChar
  rw [toNat_char (bounds.2.2.imp_right fun high => ⟨high, by omega⟩)]
  dsimp only
  rw [if_neg (by omega), if_neg (by omega), if_pos (by omega), first, middle, last]

theorem encodeChar_four (h : b.toNat = 0xF0 + k) (small : k < 5)
    (second : (if k = 0 then 0x90 else 0x80) ≤ x.toNat ∧ x.toNat ≤ if k = 4 then 0x8F else 0xBF)
    (third : 0x80 ≤ y.toNat ∧ y.toNat ≤ 0xBF) (fourth : 0x80 ≤ z.toNat ∧ z.toNat ≤ 0xBF)
    (code : n = ((k * 64 + (x.toNat - 0x80)) * 64 + (y.toNat - 0x80)) * 64 + (z.toNat - 0x80)) :
    encodeChar (Char.ofNat n) = [b, x, y, z] := by
  obtain ⟨least, greatest⟩ := second
  have wide : 0x80 ≤ x.toNat ∧ x.toNat ≤ 0xBF := by split_ifs at least greatest <;> omega
  have bounds : 0x10000 ≤ n ∧ n < 0x110000 := by split_ifs at least greatest <;> omega
  have first : UInt8.ofNat (0xF0 + n / 262144) = b := eq_ofNat (by omega)
  have early : continuation (n / 4096) = x := eq_continuation wide (by omega)
  have late : continuation (n / 64) = y := eq_continuation third (by omega)
  have last : continuation n = z := eq_continuation fourth (by omega)
  unfold encodeChar
  rw [toNat_char (.inr ⟨by omega, bounds.2⟩)]
  dsimp only
  rw [if_neg (by omega), if_neg (by omega), if_neg (by omega), first, early, late, last]

theorem Flawed.silent {p q : Option Pending} (h : step p b = ([], q))
    (flawed : Flawed done q rest) :
    Flawed done p (b :: rest) := by
  rw [Flawed, piecesFrom_silent h]
  exact flawed

/-- A byte within the bounds of a pending character, or a flaw. -/
theorem flawed_or_takes (done : List Piece) (p : Pending) (bytes : List UInt8) :
    Flawed done (some p) bytes ∨
      ∃ x rest, bytes = x :: rest ∧ p.low ≤ x.toNat ∧ x.toNat ≤ p.high := by
  cases bytes with
  | nil => exact .inl (flawed_nil p)
  | cons x rest =>
    by_cases takes : p.low ≤ x.toNat ∧ x.toNat ≤ p.high
    · exact .inr ⟨x, rest, rfl, takes⟩
    · exact .inl (flawed_of_refused takes)

/-- At the front of some bytes stands a character or a flaw. -/
theorem flawed_or_encodeChar (done : List Piece) (b : UInt8) (rest : List UInt8) :
    Flawed done none (b :: rest) ∨ ∃ c tail, b :: rest = encodeChar c ++ tail := by
  have small : b.toNat < 256 := UInt8.toNat_lt b
  by_cases one : b.toNat < 0x80
  · exact .inr ⟨Char.ofNat b.toNat, rest, by rw [encodeChar_one one]; rfl⟩
  by_cases two : 0xC2 ≤ b.toNat ∧ b.toNat < 0xE0
  · have starts := step_opening (start_two two.1 two.2)
    rcases flawed_or_takes done ⟨b, 1, 1, 0x80, 0xBF, b.toNat - 0xC0⟩ rest with flawed | found
    · exact .inl (flawed.silent starts)
    · obtain ⟨x, tail, rfl, second⟩ := found
      exact .inr ⟨_, tail, by rw [encodeChar_two two.1 two.2 second rfl]; rfl⟩
  by_cases three : 0xE0 ≤ b.toNat ∧ b.toNat < 0xF0
  · obtain ⟨k, first⟩ : ∃ k, b.toNat = 0xE0 + k := ⟨b.toNat - 0xE0, by omega⟩
    have starts := step_opening (start_three first (by omega))
    generalize opened : (⟨b, 1, 2, _, _, k⟩ : Pending) = p at starts
    have more : p.owed ≠ 1 := by simp [← opened]
    rcases flawed_or_takes done p rest with flawed | ⟨x, tail, rfl, second⟩
    · exact .inl (flawed.silent starts)
    rcases flawed_or_takes done (p.taking x) tail with flawed | ⟨y, tail, rfl, third⟩
    · exact .inl ((flawed.silent (step_next second more)).silent starts)
    subst opened
    exact .inr ⟨_, tail, by rw [encodeChar_three first (by omega) second third rfl]; rfl⟩
  by_cases four : 0xF0 ≤ b.toNat ∧ b.toNat < 0xF5
  · obtain ⟨k, first⟩ : ∃ k, b.toNat = 0xF0 + k := ⟨b.toNat - 0xF0, by omega⟩
    have starts := step_opening (start_four first (by omega))
    generalize opened : (⟨b, 1, 3, _, _, k⟩ : Pending) = p at starts
    have more : p.owed ≠ 1 := by simp [← opened]
    rcases flawed_or_takes done p rest with flawed | ⟨x, tail, rfl, second⟩
    · exact .inl (flawed.silent starts)
    have more' : (p.taking x).owed ≠ 1 := by simp [← opened, Pending.taking]
    rcases flawed_or_takes done (p.taking x) tail with flawed | ⟨y, tail, rfl, third⟩
    · exact .inl ((flawed.silent (step_next second more)).silent starts)
    rcases flawed_or_takes done ((p.taking x).taking y) tail with flawed | ⟨z, tail, rfl, fourth⟩
    · exact .inl (((flawed.silent (step_next third more')).silent (step_next second more)).silent
        starts)
    subst opened
    exact .inr ⟨_, tail, by rw [encodeChar_four first (by omega) second third fourth rfl]; rfl⟩
  · exact .inl (flawed_of_start (by omega))

/-! ### Texts -/

theorem piecesFrom_encode (done : List Piece) (cs : List Char) :
    piecesFrom done none (encode cs) = done.reverse ++ cs.map .char := by
  induction cs generalizing done with
  | nil => exact (List.append_nil _).symm
  | cons c cs ih =>
    rw [encode, List.flatMap_cons, piecesFrom_encodeChar]
    refine (ih _).trans ?_
    simp

theorem characters_map (offset : Nat) (cs : List Char) :
    characters offset (cs.map .char) = .ok cs := by
  induction cs generalizing offset with
  | nil => rfl
  | cons c cs ih => simp [characters, ih]

/-- A text is read back from its bytes. -/
theorem decode_encode (cs : List Char) : decode (encode cs) = .ok cs := by
  rw [decode, pieces, piecesFrom_encode]
  exact characters_map 0 cs

/-- Texts with the same bytes are the same. -/
theorem encode_injective {cs ds : List Char} (same : encode cs = encode ds) : cs = ds := by
  have decoded := decode_encode cs
  rw [same, decode_encode] at decoded
  exact (Except.ok.inj decoded).symm

theorem encodeChar_ne_nil (c : Char) : encodeChar c ≠ [] := by
  unfold encodeChar
  dsimp only
  split_ifs <;> exact List.cons_ne_nil _ _

/-- Bytes are those of a text, or they are cut into characters up to a flaw. -/
theorem exists_encode_or_flaw (bytes : List UInt8) (done : List Piece) :
    (∃ cs, bytes = encode cs) ∨
      ∃ (cs : List Char) (f : Flaw) (ps : List Piece),
        piecesFrom done none bytes = done.reverse ++ (cs.map .char ++ .flaw f :: ps) := by
  induction size : bytes.length using Nat.strongRecOn generalizing bytes done with
  | ind n ih =>
    cases bytes with
    | nil => exact .inl ⟨[], rfl⟩
    | cons b rest =>
      rcases flawed_or_encodeChar done b rest with ⟨f, ps, flawed⟩ | ⟨c, tail, front⟩
      · exact .inr ⟨[], f, ps, flawed⟩
      · have shorter : tail.length < n := by
          have some := List.length_pos_iff.mpr (encodeChar_ne_nil c)
          rw [← size, front, List.length_append]
          omega
        rcases ih _ shorter tail (.char c :: done) rfl with ⟨cs, rfl⟩ | ⟨cs, f, ps, found⟩
        · exact .inl ⟨c :: cs, front⟩
        · refine .inr ⟨c :: cs, f, ps, ?_⟩
          rw [front, piecesFrom_encodeChar, found]
          simp

theorem characters_flaw (offset : Nat) (cs : List Char) (f : Flaw) (ps : List Piece) :
    ∃ u, characters offset (cs.map .char ++ .flaw f :: ps) = .error u := by
  induction cs generalizing offset with
  | nil => exact ⟨_, rfl⟩
  | cons c cs ih =>
    obtain ⟨u, failed⟩ := ih (offset + c.utf8Size)
    exact ⟨u, by simp [characters, failed]⟩

/-- Bytes decode to a text exactly when they are its bytes. -/
theorem decode_eq_ok_iff {bytes : List UInt8} {cs : List Char} :
    decode bytes = .ok cs ↔ encode cs = bytes := by
  constructor
  · intro decoded
    rcases exists_encode_or_flaw bytes [] with ⟨cs', rfl⟩ | ⟨cs', f, ps, found⟩
    · rw [decode_encode] at decoded
      rw [Except.ok.inj decoded]
    · obtain ⟨u, failed⟩ := characters_flaw 0 cs' f ps
      rw [decode, pieces, found, List.reverse_nil, List.nil_append, failed] at decoded
      cases decoded
  · rintro rfl
    exact decode_encode cs

end CredoAssistant.Utf8
