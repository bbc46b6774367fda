import CredoAssistant.Proofs.Process.Options

/-!
Chains of overrides. An override is taken as a whole or refused as a whole, and it is refused for a
negative time limit only. So each option ends with the last value that an override which was taken
gives for it, and no options on the way hold a negative time limit.
-/
namespace CredoAssistant.ProcessOptions

variable {α : Type} {o : ProcessOptions} {calls : List Override}

/-- Values to be put into options; an absent one leaves its option as it is. -/
structure Override where
  cwd : Option Path
  timeout : Option Seconds
  deriving DecidableEq, Repr

/-- The options behind an override. One that is refused leaves them as they were. -/
def attempt (o : ProcessOptions) (c : Override) : ProcessOptions :=
  (o.withOverrides? c.cwd c.timeout).getD o

/-- The options behind a chain of overrides. -/
def chain (o : ProcessOptions) (calls : List Override) : ProcessOptions := calls.foldl attempt o

/-- The overrides of a chain that are not refused, in their order. -/
def taken (o : ProcessOptions) : List Override → List Override
  | [] => []
  | c :: rest =>
    if (o.withOverrides? c.cwd c.timeout).isSome then c :: (o.attempt c).taken rest
    else (o.attempt c).taken rest

/-- The last value that some overrides give for an option, or what it was when none gives any. -/
inductive Lasts (option : Override → Option α) (initial : Option α) (calls : List Override) :
    Option α → Prop
  | given {before after : List Override} {c : Override} {x : α}
      (order : calls = before ++ c :: after) (value : option c = some x)
      (silent : ∀ d ∈ after, option d = none) : Lasts option initial calls (some x)
  | left (silent : ∀ d ∈ calls, option d = none) : Lasts option initial calls initial

/-- What a chain of overrides makes of options. -/
structure Overridden (o : ProcessOptions) (calls : List Override) : Prop where
  refused_iff : ∀ before c after, calls = before ++ c :: after →
    ((o.chain before).withOverrides? c.cwd c.timeout = none ↔
      ∃ t, c.timeout = some t ∧ t.isNegative = true)
  unchanged : ∀ before c after, calls = before ++ c :: after →
    (o.chain before).withOverrides? c.cwd c.timeout = none →
      o.chain (before ++ [c]) = o.chain before
  cwd : Lasts Override.cwd o.cwd (o.taken calls) (o.chain calls).cwd
  timeout : Lasts Override.timeout o.timeout (o.taken calls) (o.chain calls).timeout
  env : (o.chain calls).env = o.env
  timely : ∀ before after, calls = before ++ after →
    ∀ t, (o.chain before).timeout = some t → t.isNegative = false

/-! ### One override -/

theorem withOverrides?_eq_none_iff (valid : o.isValid = true) {cwd : Option Path}
    {timeout : Option Seconds} :
    o.withOverrides? cwd timeout = none ↔ ∃ t, timeout = some t ∧ t.isNegative = true := by
  have timely : o.withOverrides? cwd timeout ≠ none ↔ ∀ t ∈ timeout, t.isNegative = false := by
    rw [Option.ne_none_iff_exists']
    constructor
    · rintro ⟨next, made⟩
      exact ((withOverrides?_eq_some_iff valid).mp made).1
    · intro sound
      exact ⟨_, (withOverrides?_eq_some_iff valid).mpr ⟨sound, rfl⟩⟩
  rw [← Decidable.not_iff_not]
  refine timely.trans ?_
  cases timeout <;> simp

theorem attempt_refused {c : Override} (refused : o.withOverrides? c.cwd c.timeout = none) :
    o.attempt c = o := by
  rw [attempt, refused]
  rfl

theorem attempt_taken (valid : o.isValid = true) {c : Override} {next : ProcessOptions}
    (made : o.withOverrides? c.cwd c.timeout = some next) :
    o.attempt c = ⟨c.cwd <|> o.cwd, o.env, c.timeout <|> o.timeout⟩ := by
  rw [attempt, made]
  exact ((withOverrides?_eq_some_iff valid).mp made).2

theorem Made.attempt (made : Made o) (c : Override) : Made (o.attempt c) := by
  cases outcome : o.withOverrides? c.cwd c.timeout with
  | none => exact (attempt_refused outcome).symm ▸ made
  | some next =>
    have behind : o.attempt c = next := by
      rw [ProcessOptions.attempt, outcome]
      rfl
    exact behind ▸ made.overridden outcome

/-! ### Chains -/

theorem chain_concat (o : ProcessOptions) (before : List Override) (c : Override) :
    o.chain (before ++ [c]) = (o.chain before).attempt c := by
  rw [chain, List.foldl_append]
  rfl

theorem Made.chain (made : Made o) (calls : List Override) : Made (o.chain calls) := by
  induction calls generalizing o with
  | nil => exact made
  | cons c rest ih => exact ih (made.attempt c)

/-- A value that is given first lasts unless a later one is given. -/
theorem Lasts.cons {option : Override → Option α} {initial value : Option α} {c : Override}
    (lasts : Lasts option (option c <|> initial) calls value) :
    Lasts option initial (c :: calls) value := by
  cases lasts with
  | @given before after d x order value silent =>
    have behind : c :: calls = (c :: before) ++ d :: after := congrArg (c :: ·) order
    exact .given behind value silent
  | left silent =>
    cases value : option c with
    | none => exact .left (List.forall_mem_cons.mpr ⟨value, silent⟩)
    | some x =>
      have first : c :: calls = [] ++ c :: calls := rfl
      exact .given first value silent

/-- An option for which every override that is taken counts alone lasts along the chain. -/
theorem lasts_chain {option : Override → Option α} (held : ProcessOptions → Option α)
    (put : ∀ (o : ProcessOptions) (c : Override) (next : ProcessOptions), Made o →
      o.withOverrides? c.cwd c.timeout = some next → held (o.attempt c) = (option c <|> held o))
    (made : Made o) (calls : List Override) :
    Lasts option (held o) (o.taken calls) (held (o.chain calls)) := by
  induction calls generalizing o with
  | nil => exact .left (by simp [taken])
  | cons c rest ih =>
    have later : Lasts option (held (o.attempt c)) ((o.attempt c).taken rest)
        (held (o.chain (c :: rest))) := ih (made.attempt c)
    cases outcome : o.withOverrides? c.cwd c.timeout with
    | none =>
      -- Refused, it is left out of those that count, and the options go on as they were.
      rw [attempt_refused outcome] at later
      simpa [taken, outcome, attempt_refused outcome] using later
    | some next =>
      rw [put o c next made outcome] at later
      simpa [taken, outcome] using later.cons

/-- The environment is no value that is put in. -/
theorem env_chain (made : Made o) (calls : List Override) : (o.chain calls).env = o.env := by
  induction calls generalizing o with
  | nil => rfl
  | cons c rest ih =>
    have first : (o.attempt c).env = o.env := by
      cases outcome : o.withOverrides? c.cwd c.timeout with
      | none => rw [attempt_refused outcome]
      | some next => rw [attempt_taken made.isValid outcome]
    exact (ih (made.attempt c)).trans first

/-- Every chain of overrides keeps what it was given last, and takes nothing from one that it
refuses. -/
theorem overridden_of_made (made : Made o) (calls : List Override) : Overridden o calls := by
  constructor
  case refused_iff =>
    intro before c after order
    exact withOverrides?_eq_none_iff (made.chain before).isValid
  case unchanged =>
    intro before c after order refused
    rw [chain_concat]
    exact attempt_refused refused
  case cwd =>
    refine lasts_chain ProcessOptions.cwd (fun o c next made outcome => ?_) made calls
    rw [attempt_taken made.isValid outcome]
  case timeout =>
    refine lasts_chain ProcessOptions.timeout (fun o c next made outcome => ?_) made calls
    rw [attempt_taken made.isValid outcome]
  case env => exact env_chain made calls
  case timely =>
    intro before after order
    exact isValid_iff.mp (made.chain before).isValid

/-- Overrides of which the first and the last are refused: NaN and the zero below zero are no
negative time limits. -/
def mixed : List Override :=
  [⟨some (Path.ofText "/srv"), some (.whole (-1))⟩, ⟨some (Path.ofText "/tmp"), none⟩,
    ⟨none, some (.number .nan)⟩, ⟨none, some (.number (.zero true))⟩,
    ⟨some (Path.ofText "/proj"), some (.number (.infinite true))⟩]

theorem overridden_mixed :
    ∃ o, mk? none (some [("MIX_ENV", "test")]) (some (.whole 5)) = some o ∧
      o.chain mixed =
        ⟨some (Path.ofText "/tmp"), some [("MIX_ENV", "test")], some (.number (.zero true))⟩ ∧
      Overridden o mixed := by
  have made : mk? none (some [("MIX_ENV", "test")]) (some (.whole 5)) =
      some ⟨none, some [("MIX_ENV", "test")], some (.whole 5)⟩ := by
    decide +kernel
  exact ⟨_, made, by decide +kernel, overridden_of_made (.given made) mixed⟩

end CredoAssistant.ProcessOptions
