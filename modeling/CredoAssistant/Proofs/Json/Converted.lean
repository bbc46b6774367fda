import CredoAssistant.Proofs.Json.RoundTrip

/-!
Integers of values that were read. Integers with too many digits are refused, so whatever integers a
value holds that was read, each of them can be written and read again.
-/
namespace CredoAssistant.Json

variable {α : Type} {stack : Stack} {cs : List Char}

theorem value_lt {ds : List Char} (digits : ∀ c ∈ ds, c.isDigit = true) :
    Decimal.value ds < 10 ^ ds.length := by
  induction ds with
  | nil => decide
  | cons c ds ih =>
    obtain ⟨digit, digits⟩ := List.forall_mem_cons.mp digits
    obtain ⟨_, last⟩ := Char.isDigit_iff_toNat.mp digit
    have low : c.toNat - '0'.toNat ≤ 9 := Nat.sub_le_of_le_add last
    have later := ih digits
    rw [Decimal.value, Nat.ofDigitChars_cons, Nat.ofDigitChars_eq_ofDigitChars_zero,
      List.length_cons, Nat.pow_succ, Nat.mul_zero, Nat.zero_add]
    have scaled := Nat.mul_le_mul_left (10 ^ ds.length) low
    unfold Decimal.value at later
    omega

/-- As many digits as may be converted make an integer that is written with no more of them. -/
theorem isConvertible_value {ds : List Char} (digits : ∀ c ∈ ds, c.isDigit = true)
    (few : ds.length ≤ maxDigits) : IsConvertible (Decimal.value ds : Nat) := by
  have bound : Decimal.value ds < 10 ^ maxDigits :=
    Nat.lt_of_lt_of_le (value_lt digits) (Nat.pow_le_pow_right (by decide) few)
  exact (Nat.length_toDigits_le_iff (by decide) (by decide)).mpr bound

theorem isConvertible_neg {i : Int} (short : IsConvertible i) : IsConvertible (-i) := by
  unfold IsConvertible
  rw [Int.natAbs_neg]
  exact short

/-- The integers below 64 bits and their opposites. -/
theorem isConvertible_of_natAbs_lt {i : Int} (small : i.natAbs < 2 ^ 63) : IsConvertible i := by
  have bound : i.natAbs < 10 ^ 19 := Nat.lt_trans small (by decide)
  have few := (Nat.length_toDigits_le_iff (by decide) (by decide)).mpr bound
  exact Nat.le_trans few (by decide)

/-- A value none of whose integers is too long. -/
inductive Converted : Value → Prop
  | null : Converted .null
  | bool (b : Bool) : Converted (.bool b)
  | int {i : Int} (short : IsConvertible i) : Converted (.int i)
  | float (x : Binary64) : Converted (.float x)
  | text (s : String) : Converted (.text s)
  | list {vs : List Value} (items : ∀ v ∈ vs, Converted v) : Converted (.list vs)
  | object {ms : Members} (members : ∀ m ∈ ms, Converted m.2) : Converted (.object ms)

theorem converted_of_word {v : Value} (known : (cs, v) ∈ words) : Converted v := by
  simp only [words, List.mem_cons, Prod.mk.injEq, List.not_mem_nil, or_false] at known
  rcases known with ⟨_, rfl⟩ | ⟨_, rfl⟩ | ⟨_, rfl⟩ | ⟨_, rfl⟩ | ⟨_, rfl⟩ | ⟨_, rfl⟩
  · exact .null
  · exact .bool true
  · exact .bool false
  · exact .float _
  · exact .float _
  · exact .float _

theorem Whole.isDigit {ds : List Char} (whole : Whole ds) : ∀ c ∈ ds, c.isDigit = true := by
  cases whole with
  | zero => simp
  | digits leading digits => exact digits

/-- What holds of all parts that are no longer than the whole holds of separated parts. -/
theorem Separated.forall {P : List Char → α → Prop} {Q : α → Prop} {as : List α}
    (separated : Separated P cs as)
    (each : ∀ part a, part.length ≤ cs.length → P part a → Q a) : ∀ a ∈ as, Q a := by
  induction separated with
  | last part blank =>
    exact List.forall_mem_singleton.mpr (each _ _ (by simp) part)
  | next part blank blank' later ih =>
    refine List.forall_mem_cons.mpr
      ⟨each _ _ (by simp) part, ih fun part a within => each part a ?_⟩
    simp only [List.length_append, List.length_cons]
    omega

/-- What holds of all shorter parts holds of those between two brackets. -/
theorem Enclosed.forall {opening closing : Char} {P : List Char → α → Prop} {Q : α → Prop}
    {as : List α} (enclosed : Enclosed opening closing P cs as)
    (each : ∀ part a, part.length < cs.length → P part a → Q a) : ∀ a ∈ as, Q a := by
  cases enclosed with
  | none blank => nofun
  | some blank parts =>
    refine parts.forall fun part a within => each part a ?_
    simp only [List.length_append, List.length_cons]
    omega

/-- What a text with short integers stands for holds no others. -/
theorem converted_of_denotes {v : Value} (denotes : Denotes Convertible cs v) : Converted v := by
  -- Values are nested in relations of their own, so the induction is on the length of the text.
  induction size : cs.length using Nat.strongRecOn generalizing cs v with
  | ind n ih =>
    subst size
    cases denotes with
    | word known => exact converted_of_word known
    | integer whole few =>
      have short := isConvertible_value whole.isDigit few
      refine .int ?_
      split
      · exact isConvertible_neg short
      · exact short
    | number whole pointed marked either => exact .float _
    | text spelled => exact .text _
    | list items =>
      exact .list (items.forall fun part v within denotes => ih _ within denotes rfl)
    | @object _ ms members =>
      have each : ∀ m ∈ ms, Converted m.2 := members.forall fun part m within named => by
        cases named with
        | mk spelled blank blank' value =>
          refine ih _ ?_ value rfl
          simp only [List.length_append, List.length_cons] at within ⊢
          omega
      exact .object fun m inside => each m (Entries.mem_of_mem_ofPairs inside)

/-- No integer of a value that was read is too long. -/
theorem converted_of_read {v : Value} (decoded : read stack cs = .ok v) : Converted v := by
  obtain ⟨blank, denotes, blank'⟩ := document_of_read (fun _ few => few) decoded
  exact converted_of_denotes denotes

end CredoAssistant.Json
