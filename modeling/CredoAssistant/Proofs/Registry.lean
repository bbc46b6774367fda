import CredoAssistant.Proofs.Entries
import CredoAssistant.Registry

/-!
The registry as a projection of what was registered. The registrations of a syntax are kept in a
list of its own, and together these lists keep the order and the repetitions of all registrations;
the event is asked for in a query only. Queries leave everything as it is.
-/
namespace CredoAssistant.Registry

variable {α : Type} {reg : Registry α} {syntaxName : String}

/-- What a registry is asked to do: to register an assistant, with syntaxes and an event that are
given or those of settings, or to name the assistants of a syntax. -/
inductive Call (α : Type)
  | register (syntaxes : List String) (assistant : α) (event : String)
  | registerFor (settings : Option Settings) (assistant : α)
  | query (syntaxName : String) (event : Option String)
  deriving DecidableEq, Repr

/-- Does what is asked, and answers if it is a query. Without settings the default ones hold. -/
def step (reg : Registry α) : Call α → Registry α × Option (List α)
  | .register syntaxes assistant event => ((register syntaxes assistant event reg).1, none)
  | .registerFor settings assistant =>
    ((registerFor (settings.getD .default) assistant reg).1, none)
  | .query syntaxName event => (reg, some (assistants syntaxName event reg))

/-- The registry behind some calls. -/
def after (reg : Registry α) (calls : List (Call α)) : Registry α :=
  calls.foldl (fun reg c => (reg.step c).1) reg

/-- What each call answers. -/
def replies (reg : Registry α) : List (Call α) → List (Option (List α))
  | [] => []
  | c :: rest => (reg.step c).2 :: replies (reg.step c).1 rest

/-- A registration as it is made, with all its syntaxes. -/
structure Entry (α : Type) where
  syntaxes : List String
  assistant : α
  event : String
  deriving DecidableEq, Repr

def Call.entry? : Call α → Option (Entry α)
  | .register syntaxes assistant event => some ⟨syntaxes, assistant, event⟩
  | .registerFor settings assistant =>
    some ⟨(settings.getD .default).syntaxes, assistant, (settings.getD .default).event⟩
  | .query _ _ => none

/-- The registrations among some calls, in their order. -/
def log (calls : List (Call α)) : List (Entry α) := calls.filterMap Call.entry?

/-- The registrations under an event, or all of them. -/
def under (event : Option String) (entries : List (Entry α)) : List (Entry α) :=
  entries.filter fun r => event.all fun e => r.event == e

/-- The assistants of some registrations, each as often as the syntax occurs in its registration. -/
def projection (syntaxName : String) (entries : List (Entry α)) : List α :=
  entries.flatMap fun r => List.replicate (r.syntaxes.count syntaxName) r.assistant

/-! ### One registration -/

/-- What a registry holds of a syntax. -/
def held (syntaxName : String) (reg : Registry α) : List (Registration α) :=
  (Entries.get? syntaxName reg).getD []

theorem held_add (syntaxName other : String) (r : Registration α) (reg : Registry α) :
    held other (add syntaxName r reg) =
      held other reg ++ if syntaxName = other then [r] else [] := by
  unfold held add
  rw [Entries.get?_set]
  split
  · rename_i same
    rw [same]
    rfl
  · exact (List.append_nil _).symm

/-- A registration stands behind the earlier ones of each of its syntaxes, once for each time that
the syntax is named. -/
theorem held_register (syntaxes : List String) (assistant : α) (event : String) (reg : Registry α) :
    held syntaxName (register syntaxes assistant event reg).1 =
      held syntaxName reg ++
        List.replicate (syntaxes.count syntaxName) ⟨assistant, event⟩ := by
  unfold register
  induction syntaxes generalizing reg with
  | nil => simp
  | cons name rest ih =>
    dsimp only at ih ⊢
    rw [List.foldl_cons, ih, held_add, List.append_assoc, List.count_cons]
    by_cases same : name = syntaxName
    · simp [same, List.replicate_succ]
    · simp [same]

/-! ### All registrations -/

/-- A registry holds of each syntax what some registrations say of it. -/
def Records (reg : Registry α) (entries : List (Entry α)) : Prop :=
  ∀ syntaxName, held syntaxName reg = entries.flatMap fun r =>
    List.replicate (r.syntaxes.count syntaxName) ⟨r.assistant, r.event⟩

theorem records_step {entries : List (Entry α)} (records : Records reg entries) (c : Call α) :
    Records (reg.step c).1 (entries ++ c.entry?.toList) := by
  intro syntaxName
  cases c with
  | register syntaxes assistant event =>
    simp [step, held_register, records syntaxName, Call.entry?]
  | registerFor settings assistant =>
    simp [step, registerFor, held_register, records syntaxName, Call.entry?]
  | query name event => simp [step, records syntaxName, Call.entry?]

theorem records_after {entries : List (Entry α)} (records : Records reg entries)
    (calls : List (Call α)) : Records (reg.after calls) (entries ++ log calls) := by
  induction calls generalizing reg entries with
  | nil => simpa [after, log] using records
  | cons c rest ih =>
    have later := ih (records_step records c)
    have order : log (c :: rest) = c.entry?.toList ++ log rest := by
      cases given : c.entry? <;> simp [log, given]
    rw [order, ← List.append_assoc]
    exact later

/-- The event is a matter of the query: it takes whole registrations out of those of a syntax. -/
theorem assistants_of_records {entries : List (Entry α)} (records : Records reg entries)
    (syntaxName : String) (event : Option String) :
    assistants syntaxName event reg = projection syntaxName (under event entries) := by
  have holds := records syntaxName
  unfold held at holds
  unfold assistants projection under
  rw [holds]
  -- What is left is about the registrations alone.
  clear records holds
  induction entries with
  | nil => rfl
  | cons r rest ih =>
    rw [List.flatMap_cons, List.filter_append, List.map_append, ih, List.filter_cons]
    cases wanted : event.all fun e => r.event == e with
    | true => simp [wanted]
    | false => simp [wanted]

theorem answered_at (reg : Registry α) {calls : List (Call α)} {i : Nat} {event : Option String}
    (asked : calls[i]? = some (.query syntaxName event)) :
    (replies reg calls)[i]? =
      some (some (assistants syntaxName event (reg.after (calls.take i)))) := by
  induction calls generalizing reg i with
  | nil => cases asked
  | cons c rest ih =>
    cases i with
    | zero =>
      cases asked
      rfl
    | succ i => exact ih (reg.step c).1 asked

/-- Without a query everything else is answered as it was. -/
theorem replies_eraseIdx (reg : Registry α) {calls : List (Call α)} {i : Nat}
    {event : Option String} (asked : calls[i]? = some (.query syntaxName event)) :
    replies reg (calls.eraseIdx i) = (replies reg calls).eraseIdx i := by
  induction calls generalizing reg i with
  | nil => cases asked
  | cons c rest ih =>
    cases i with
    | zero =>
      cases asked
      rfl
    | succ i => exact congrArg ((reg.step c).2 :: ·) (ih (reg.step c).1 asked)

/-- What a registry answers in the course of some calls. -/
structure Projects (calls : List (Call α)) : Prop where
  current : ∀ syntaxName event, assistants syntaxName event (after [] calls) =
    projection syntaxName (under event (log calls))
  answered : ∀ i syntaxName event, calls[i]? = some (.query syntaxName event) →
    (replies [] calls)[i]? = some (some (projection syntaxName (under event (log (calls.take i)))))
  harmless : ∀ i syntaxName event, calls[i]? = some (.query syntaxName event) →
    replies [] (calls.eraseIdx i) = (replies [] calls).eraseIdx i

/-- The assistants of a syntax are those that were registered for it, in order and as often. -/
theorem projects (calls : List (Call α)) : Projects calls := by
  have empty : Records ([] : Registry α) [] := fun _ => rfl
  have current (calls : List (Call α)) (syntaxName : String) (event : Option String) :
      assistants syntaxName event (after [] calls) =
        projection syntaxName (under event (log calls)) :=
    assistants_of_records (records_after empty calls) syntaxName event
  constructor
  case current => exact current calls
  case answered =>
    intro i syntaxName event asked
    rw [answered_at [] asked, current]
  case harmless => exact fun i syntaxName event asked => replies_eraseIdx [] asked

example : replies []
      [.register ["elixir", "eex", "elixir"] "first" "on-save", .query "elixir" none,
        .registerFor none "second", .register [] "nobody" "on-load",
        .query "elixir" (some "on-save"), .query "elixir" (some "on-load"), .query "ruby" none] =
    [none, some ["first", "first"], none, none, some ["first", "first", "second"], some [],
      some []] := by
  decide +kernel

end CredoAssistant.Registry
