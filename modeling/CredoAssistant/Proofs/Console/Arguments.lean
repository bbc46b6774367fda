import CredoAssistant.Console.Arguments
import CredoAssistant.Proofs.Path
import CredoAssistant.Proofs.Validation
import Mathlib.Data.List.Basic
import Mathlib.Data.List.TakeWhile

/-!
What arguments are accepted, however numbers are read. The paths of a request hold no null
character, so that every file that is asked for has a place, and its time limit is not below zero.
-/
namespace CredoAssistant

namespace Console

theorem hasNull_of_readPath {name s : String} {p : Path} (read : readPath name s = .ok p) :
    p.hasNull = false := by
  unfold readPath at read
  dsimp only at read
  split at read
  · cases read
  · rename_i clean
    cases read
    exact Bool.not_eq_true _ ▸ clean

/-- What may be given as a time limit, and what it stands for: nothing, or a text that is read as a
number which is not below zero. -/
inductive Limits (number? : NumberReader) : Option String → Option Binary64 → Prop
  | absent : Limits number? none none
  | given {s : String} {x : Binary64} (read : number? s = some x) (above : x.isBelowZero = false) :
      Limits number? (some s) (some x)

theorem readTimeout_eq_ok_iff {number? : NumberReader} {given : Option String}
    {timeout : Option Binary64} :
    readTimeout number? given = .ok timeout ↔ Limits number? given timeout := by
  constructor
  · intro read
    unfold readTimeout at read
    split at read
    · cases read
      exact .absent
    · split at read
      · cases read
      · rename_i number
        split at read
        · cases read
        · rename_i sign
          cases read
          exact .given number (Bool.not_eq_true _ ▸ sign)
  · rintro (_ | ⟨number, above⟩)
    · rfl
    · simp [readTimeout, number, above]

theorem Limits.isBelowZero {number? : NumberReader} {given : Option String}
    {timeout : Option Binary64} (limits : Limits number? given timeout) :
    ∀ t ∈ timeout, t.isBelowZero = false := by
  rintro t ⟨⟩
  cases limits with
  | given _ above => exact above

/-- What can be inspected: paths without null characters, within a time that is not below zero. -/
structure Inspectable (file root : Path) (timeout : Option Binary64) : Prop where
  file : file.hasNull = false
  root : root.hasNull = false
  timeout : ∀ t ∈ timeout, t.isBelowZero = false

section Accepted

variable {number? : NumberReader} {args : List String} {file root : Path} {formatName : String}
  {strict : Option Bool} {timeout : Option Binary64} {emoji verbose : Bool}

theorem inspectable_of_readInspect
    (read : readInspect number? args =
      .ok (.inspect file root formatName strict timeout emoji verbose)) :
    Inspectable file root timeout := by
  obtain ⟨⟨o, others⟩, _, read⟩ := bind_eq_ok_iff.mp read
  dsimp only at read
  split at read
  · cases read
  · obtain ⟨directory, project, read⟩ := bind_eq_ok_iff.mp read
    obtain ⟨limit, time, read⟩ := bind_eq_ok_iff.mp read
    obtain ⟨path, place, read⟩ := bind_eq_ok_iff.mp read
    cases read
    exact ⟨hasNull_of_readPath place, hasNull_of_readPath project,
      (readTimeout_eq_ok_iff.mp time).isBelowZero⟩
  · cases read

theorem readConfig_ne_inspect :
    readConfig args ≠ .ok (.inspect file root formatName strict timeout emoji verbose) := by
  intro read
  obtain ⟨⟨o, others⟩, _, read⟩ := bind_eq_ok_iff.mp read
  dsimp only at read
  split at read
  · obtain ⟨directory, _, read⟩ := bind_eq_ok_iff.mp read
    cases read
  · cases read

/-- What accepted arguments ask for can be inspected. -/
theorem inspectable_of_ofArguments
    (read : Request.ofArguments number? args =
      .ok (.inspect file root formatName strict timeout emoji verbose)) :
    Inspectable file root timeout := by
  have command {args : List String} (read : Request.ofArguments.command number? args =
      .ok (.inspect file root formatName strict timeout emoji verbose)) :
      Inspectable file root timeout := by
    unfold Request.ofArguments.command at read
    split at read
    · cases read
    · exact inspectable_of_readInspect read
    · exact absurd read readConfig_ne_inspect
    · split at read
      · cases read
      · cases read
  unfold Request.ofArguments at read
  split at read
  · cases read
  · exact command read
  · exact command read

end Accepted

/-! ### Options -/

namespace Options

variable {α : Type} {os : Options α} {state : α} {fuel : Nat} {arg : String} {rest : List String}

/-- An argument that is nothing but the long name of an option. -/
structure Spells (arg : String) : Prop where
  long : ∃ c cs, arg.toList = '-' :: '-' :: c :: cs
  bare : (arg.toList.all fun d => d != '=') = true

theorem read_long (spells : Spells arg) :
    os.read (fuel + 1) state (arg :: rest) =
      (os.readLong state rest arg).bind fun next => os.read fuel next.1 next.2 := by
  obtain ⟨c, cs, long⟩ := spells.long
  rw [read]
  simp only [long]
  rfl

theorem readLong_eq (spells : Spells arg) {action : Action α}
    (known : Entries.get? arg os = some action) :
    os.readLong state rest arg =
      match action, rest with
      | .switch f, _ => .ok (f state, rest)
      | .value _, [] => .error (.missingValue arg)
      | .value f, v :: others => .ok (f state v, others) := by
  have bare := List.all_eq_true.mp spells.bare
  have name : String.ofList (arg.toList.takeWhile (· != '=')) = arg := by
    rw [List.takeWhile_eq_self_iff.mpr bare, String.ofList_toList]
  have joined : arg.toList.dropWhile (· != '=') = [] := List.dropWhile_eq_nil_iff.mpr bare
  simp only [readLong, name, joined, known]
  cases action with
  | switch f => rfl
  | value f => cases rest <;> rfl

theorem read_switch (spells : Spells arg) {f : α → α}
    (known : Entries.get? arg os = some (.switch f)) :
    os.read (fuel + 1) state (arg :: rest) = os.read fuel (f state) rest := by
  rw [read_long spells, readLong_eq spells known]
  rfl

theorem read_value (spells : Spells arg) {f : α → String → α} (v : String)
    (known : Entries.get? arg os = some (.value f)) :
    os.read (fuel + 1) state (arg :: v :: rest) = os.read fuel (f state v) rest := by
  rw [read_long spells, readLong_eq spells known]
  rfl

/-- An argument that starts with no hyphen is kept. -/
theorem read_other (other : arg.toList.head? ≠ some '-') :
    os.read (fuel + 1) state (arg :: rest) =
      (os.read fuel state rest).map fun found => (found.1, arg :: found.2) := by
  rw [read]
  split
  · simp_all
  · simp_all
  · simp_all
  · cases os.read fuel state rest <;> rfl

end Options

/-- An option with a value, if one is given. -/
def withValue (name : String) : Option String → List String
  | some v => [name, v]
  | none => []

/-- The switch for a strictness, if one is given. -/
def withStrictness : Option Bool → List String
  | some true => ["--strict"]
  | some false => ["--no-strict"]
  | none => []

/-- The arguments behind the directory. -/
def afterRoot (strict : Option Bool) (limit : Option String) (file : String) : List String :=
  withStrictness strict ++ (withValue "--timeout" limit ++ [file])

section Reading

variable {fuel : Nat} {file : String} (named : file.toList.head? ≠ some '-')
include named

theorem read_file (o : InspectOptions) (enough : 1 ≤ fuel) :
    InspectOptions.options.read fuel o [file] = .ok (o, [file]) := by
  obtain ⟨fuel, rfl⟩ := Nat.exists_eq_add_of_le' enough
  rw [Options.read_other named]
  cases fuel <;> rfl

theorem read_timeout (o : InspectOptions) (unset : o.timeout = none) (limit : Option String)
    (enough : (withValue "--timeout" limit ++ [file]).length ≤ fuel) :
    InspectOptions.options.read fuel o (withValue "--timeout" limit ++ [file]) =
      .ok ({ o with timeout := limit }, [file]) := by
  have spells : Options.Spells "--timeout" := ⟨⟨_, _, rfl⟩, rfl⟩
  cases limit with
  | none => rw [withValue, List.nil_append, read_file named o enough, ← unset]
  | some t =>
    cases fuel with
    | zero => simp [withValue] at enough
    | succ fuel =>
      have left : 1 ≤ fuel := Nat.le_of_succ_le (Nat.le_of_succ_le_succ enough)
      exact (Options.read_value spells t rfl).trans (read_file named _ left)

theorem read_afterRoot (o : InspectOptions) (unset : o.strict = none) (unlimited : o.timeout = none)
    (strict : Option Bool) (limit : Option String)
    (enough : (afterRoot strict limit file).length ≤ fuel) :
    InspectOptions.options.read fuel o (afterRoot strict limit file) =
      .ok ({ o with strict := strict, timeout := limit }, [file]) := by
  have wanted : Options.Spells "--strict" := ⟨⟨_, _, rfl⟩, rfl⟩
  have unwanted : Options.Spells "--no-strict" := ⟨⟨_, _, rfl⟩, rfl⟩
  unfold afterRoot at enough ⊢
  cases strict with
  | none =>
    rw [withStrictness, List.nil_append, read_timeout named o unlimited limit enough, ← unset]
  | some b =>
    cases fuel with
    | zero => cases b <;> simp [withStrictness] at enough
    | succ fuel =>
      have left : (withValue "--timeout" limit ++ [file]).length ≤ fuel := by
        cases b <;> simpa [withStrictness] using enough
      have later := read_timeout named { o with strict := some b } unlimited limit left
      cases b with
      | true => exact (Options.read_switch wanted rfl).trans later
      | false => exact (Options.read_switch unwanted rfl).trans later

theorem read_options (root : Option String) (strict : Option Bool) (limit : Option String)
    (enough : (withValue "--root" root ++ afterRoot strict limit file).length ≤ fuel) :
    InspectOptions.options.read fuel .default
        (withValue "--root" root ++ afterRoot strict limit file) =
      .ok ({ InspectOptions.default with root := root, strict := strict, timeout := limit },
        [file]) := by
  have spells : Options.Spells "--root" := ⟨⟨_, _, rfl⟩, rfl⟩
  cases root with
  | none => exact read_afterRoot named _ rfl rfl strict limit enough
  | some r =>
    cases fuel with
    | zero => simp [withValue] at enough
    | succ fuel =>
      have left : (afterRoot strict limit file).length ≤ fuel :=
        Nat.le_of_succ_le (Nat.le_of_succ_le_succ enough)
      have later := read_afterRoot named { InspectOptions.default with root := some r } rfl rfl
        strict limit left
      exact (Options.read_value spells r rfl).trans later

/-- Each option says what it says, whichever of the others are given; the time limit may be none. -/
theorem ofArguments_options (number? : NumberReader) (root : Option String) (strict : Option Bool)
    (limit : Option String) (project : (Path.ofText (root.getD ".")).hasNull = false)
    (path : (Path.ofText file).hasNull = false) :
    Request.ofArguments number?
        ("inspect" :: (withValue "--root" root ++ afterRoot strict limit file)) =
      (readTimeout number? limit).map fun timeout =>
        .inspect (Path.ofText file) (Path.ofText (root.getD ".")) "pretty" strict timeout true
          false := by
  have options := read_options named root strict limit (Nat.le_succ _)
  have directory : readRoot root = .ok (Path.ofText (root.getD ".")) := by
    simp [readRoot, readPath, project]
  have place : readPath "FILE" file = .ok (Path.ofText file) := by
    simp [readPath, path]
  change readInspect _ _ = _
  simp only [readInspect, options, bind, Except.bind, directory, place]
  cases readTimeout number? limit <;> rfl

end Reading

end Console

end CredoAssistant
