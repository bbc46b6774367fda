import CredoAssistant.Process.Options

/-!
Options that can come about. However they are made, they hold no negative time limit, and values
that are put into them are refused for a negative time limit only.
-/
namespace CredoAssistant.ProcessOptions

variable {cwd : Option Path} {env : Option (Entries String String)} {timeout : Option Seconds}
  {o o' : ProcessOptions}

theorem isValid_iff : o.isValid = true ↔ ∀ t ∈ o.timeout, t.isNegative = false := by
  cases limit : o.timeout <;> simp [isValid, limit]

theorem mk?_eq_some_iff :
    mk? cwd env timeout = some o ↔
      (∀ t ∈ timeout, t.isNegative = false) ∧ o = ⟨cwd, env, timeout⟩ := by
  rw [mk?, Option.ite_none_right_eq_some, isValid_iff, Option.some.injEq, eq_comm]

theorem isValid_of_mk? (made : mk? cwd env timeout = some o) : o.isValid = true := by
  obtain ⟨timely, rfl⟩ := mk?_eq_some_iff.mp made
  exact isValid_iff.mpr timely

/-- Checked options pass the check again wherever they run. -/
theorem mk?_of_isValid (valid : o.isValid = true) (cwd : Option Path) :
    mk? cwd o.env o.timeout = some { o with cwd } :=
  mk?_eq_some_iff.mpr ⟨isValid_iff.mp valid, rfl⟩

/-- In checked options a directory is always put in, so a time limit alone decides. -/
theorem withOverrides?_eq_some_iff (valid : o.isValid = true) :
    o.withOverrides? cwd timeout = some o' ↔
      (∀ t ∈ timeout, t.isNegative = false) ∧
        o' = ⟨cwd <|> o.cwd, o.env, timeout <|> o.timeout⟩ := by
  have moved : o.withOverrides? cwd timeout =
      { o with cwd := cwd <|> o.cwd }.withOverrides? none timeout := by
    cases cwd with
    | none => rfl
    | some p =>
      unfold withOverrides?
      dsimp only
      rw [mk?_of_isValid valid (some p)]
      rfl
  rw [moved]
  cases timeout with
  | none =>
    constructor
    · exact fun kept => ⟨nofun, (Option.some.inj kept).symm⟩
    · exact fun ⟨_, same⟩ => congrArg some same.symm
  | some t => exact mk?_eq_some_iff

/-- Options that can come about: with given values, or from others with values put into them. -/
inductive Made : ProcessOptions → Prop
  | given {cwd : Option Path} {env : Option (Entries String String)} {timeout : Option Seconds}
      {o : ProcessOptions} (accepted : mk? cwd env timeout = some o) : Made o
  | overridden {o o' : ProcessOptions} {cwd : Option Path} {timeout : Option Seconds}
      (before : Made o) (accepted : o.withOverrides? cwd timeout = some o') : Made o'

theorem Made.isValid (made : Made o) : o.isValid = true := by
  induction made with
  | given accepted => exact isValid_of_mk? accepted
  | @overridden o o' cwd timeout before accepted ih =>
    obtain ⟨timely, rfl⟩ := (withOverrides?_eq_some_iff ih).mp accepted
    rw [isValid_iff] at ih ⊢
    cases timeout with
    | none => exact ih
    | some t => exact timely

end CredoAssistant.ProcessOptions
