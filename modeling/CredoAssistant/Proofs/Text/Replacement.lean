import CredoAssistant.Proofs.Text.Utf8

/-!
UTF-8 read with replacement. A character is read wherever its bytes stand, and every other piece of
the bytes is shown as the replacement character. No piece is empty and none is passed over, so bytes
are shown as no text at all only when there are none.
-/
namespace CredoAssistant.Utf8

variable {done : List Piece} {b : UInt8} {bytes rest : List UInt8} {cs : List Char}

/-- How bytes are shown: characters where they stand, and the replacement for some bytes where none
does. -/
inductive Shown : List UInt8 → List Char → Prop
  | nil : Shown [] []
  | char {c : Char} {rest : List UInt8} {cs : List Char} (behind : Shown rest cs) :
      Shown (encodeChar c ++ rest) (c :: cs)
  | flaw {front rest : List UInt8} {cs : List Char} (some : front ≠ [])
      (none : ∀ c tail, front ++ rest ≠ encodeChar c ++ tail) (behind : Shown rest cs) :
      Shown (front ++ rest) (replacement :: cs)

theorem Shown.nil_iff (shown : Shown bytes cs) : cs = [] ↔ bytes = [] := by
  cases shown with
  | nil => simp
  | char behind => simp [encodeChar_ne_nil]
  | flaw some none behind => simp [some]

/-! ### Pieces -/

/-- A byte is a piece by itself or opens a character. -/
theorem start_cases (b : UInt8) :
    (∃ piece, start b = ([piece], none)) ∨ ∃ p, start b = ([], some p) := by
  by_cases one : b.toNat < 0x80
  · exact .inl ⟨_, start_one one⟩
  by_cases invalid : 0x80 ≤ b.toNat ∧ b.toNat < 0xC2 ∨ 0xF5 ≤ b.toNat
  · exact .inl ⟨_, start_invalid invalid⟩
  by_cases two : b.toNat < 0xE0
  · exact .inr ⟨_, start_two (by omega) two⟩
  by_cases three : b.toNat < 0xF0
  · obtain ⟨k, first⟩ := Nat.exists_eq_add_of_le (show 0xE0 ≤ b.toNat by omega)
    exact .inr ⟨_, start_three first (by omega)⟩
  · obtain ⟨k, first⟩ := Nat.exists_eq_add_of_le (show 0xF0 ≤ b.toNat by omega)
    exact .inr ⟨_, start_four first (by omega)⟩

/-- A pending character ends as one piece, which takes some of the bytes or none. -/
theorem exists_piece_of_pending (bytes : List UInt8) (done : List Piece) (p : Pending) :
    ∃ piece front tail, bytes = front ++ tail ∧
      piecesFrom done (some p) bytes = piecesFrom (piece :: done) none tail := by
  induction bytes generalizing p with
  | nil => exact ⟨.flaw ⟨p.first, p.read, .endOfData⟩, [], [], rfl, rfl⟩
  | cons b rest ih =>
    by_cases takes : p.low ≤ b.toNat ∧ b.toNat ≤ p.high
    · by_cases last : p.owed = 1
      · exact ⟨_, [b], rest, rfl, piecesFrom_piece (step_last takes last)⟩
      · obtain ⟨piece, front, tail, rfl, found⟩ := ih (p.taking b)
        exact ⟨piece, b :: front, tail, rfl, (piecesFrom_silent (step_next takes last)).trans found⟩
    · refine ⟨.flaw ⟨p.first, p.read, .continuationByte⟩, [], b :: rest, rfl, ?_⟩
      rw [piecesFrom, step_refused takes, piecesFrom, step]
      simp

/-- The first piece takes the first byte. -/
theorem exists_piece (done : List Piece) (b : UInt8) (rest : List UInt8) :
    ∃ piece front tail, b :: rest = front ++ tail ∧ front ≠ [] ∧
      piecesFrom done none (b :: rest) = piecesFrom (piece :: done) none tail := by
  rcases start_cases b with ⟨piece, alone⟩ | ⟨p, opens⟩
  · exact ⟨piece, [b], rest, rfl, List.cons_ne_nil b [], piecesFrom_piece alone⟩
  · have opened : step none b = ([], some p) := opens
    obtain ⟨piece, front, tail, rfl, found⟩ := exists_piece_of_pending rest done p
    exact ⟨piece, b :: front, tail, rfl, List.cons_ne_nil b front,
      (piecesFrom_silent opened).trans found⟩

/-- Where no character stands the first piece is a flaw. -/
theorem exists_flaw (done : List Piece) (b : UInt8) (rest : List UInt8)
    (none : ∀ c tail, b :: rest ≠ encodeChar c ++ tail) :
    ∃ f front tail, b :: rest = front ++ tail ∧ front ≠ [] ∧
      piecesFrom done .none (b :: rest) = piecesFrom (.flaw f :: done) .none tail := by
  obtain ⟨piece, front, tail, cut, some, found⟩ := exists_piece done b rest
  have flawed : Flawed done .none (b :: rest) :=
    (flawed_or_encodeChar done b rest).resolve_right fun ⟨c, tail, stands⟩ => none c tail stands
  obtain ⟨f, ps, first⟩ := flawed
  obtain ⟨ps', pieces⟩ := piecesFrom_done tail (piece :: done) .none
  rw [found, pieces, List.reverse_cons, List.append_assoc] at first
  have same : piece = .flaw f := (List.cons.inj (List.append_cancel_left first)).1
  exact ⟨f, front, tail, cut, some, same ▸ found⟩

/-! ### Texts -/

theorem shown_piecesFrom (bytes : List UInt8) (done : List Piece) :
    ∃ ps, piecesFrom done none bytes = done.reverse ++ ps ∧ Shown bytes (ps.map Piece.shown) := by
  induction size : bytes.length using Nat.strongRecOn generalizing bytes done with
  | ind n ih =>
    cases bytes with
    | nil => exact ⟨[], (List.append_nil _).symm, .nil⟩
    | cons b rest =>
      by_cases stands : ∃ c tail, b :: rest = encodeChar c ++ tail
      · obtain ⟨c, tail, front⟩ := stands
        have shorter : tail.length < n := by
          have some := List.length_pos_iff.mpr (encodeChar_ne_nil c)
          rw [← size, front, List.length_append]
          omega
        obtain ⟨ps, found, shown⟩ := ih _ shorter tail (.char c :: done) rfl
        refine ⟨.char c :: ps, ?_, front ▸ .char shown⟩
        rw [front, piecesFrom_encodeChar, found]
        simp
      · have none (c : Char) (tail : List UInt8) : b :: rest ≠ encodeChar c ++ tail :=
          fun front => stands ⟨c, tail, front⟩
        obtain ⟨f, front, tail, cut, some, first⟩ := exists_flaw done b rest none
        have shorter : tail.length < n := by
          have some := List.length_pos_iff.mpr some
          rw [← size, cut, List.length_append]
          omega
        obtain ⟨ps, found, shown⟩ := ih _ shorter tail (.flaw f :: done) rfl
        refine ⟨.flaw f :: ps, ?_, cut ▸ .flaw some (cut ▸ none) shown⟩
        rw [first, found]
        simp

/-- A lossy reader shows all bytes. -/
theorem shown_decodeLossy (bytes : List UInt8) : Shown bytes (decodeLossy bytes) := by
  obtain ⟨ps, found, shown⟩ := shown_piecesFrom bytes []
  rw [decodeLossy, pieces, found]
  exact shown

/-- Nothing is replaced in the bytes of a text. -/
theorem decodeLossy_encode (cs : List Char) : decodeLossy (encode cs) = cs := by
  rw [decodeLossy, pieces, piecesFrom_encode]
  simp [Function.comp_def, Piece.shown]

theorem decodeLossy_eq_nil_iff : decodeLossy bytes = [] ↔ bytes = [] :=
  (shown_decodeLossy bytes).nil_iff

example : decodeLossy [0x61, 0xED, 0xA0, 0x80, 0xC0, 0xAF, 0xE2, 0x82] =
    'a' :: List.replicate 6 replacement := by
  decide +kernel

end CredoAssistant.Utf8
