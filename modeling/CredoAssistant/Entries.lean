/-!
Insertion-ordered association lists. A key keeps the place of its first insertion when its value is
replaced, and goes to the end when it is inserted again after a removal. Objects of data formats,
merged settings and the diagnostic store all follow this one rule.
-/
namespace CredoAssistant

/-- A list of key and value pairs, read as a map by its first pair for each key. -/
abbrev Entries (κ υ : Type) := List (κ × υ)

namespace Entries

variable {κ υ : Type} [DecidableEq κ]

/-- The value stored under `k`. -/
def get? (k : κ) : Entries κ υ → Option υ
  | [] => none
  | (k', v) :: rest => if k' = k then some v else get? k rest

/-- Stores `v` under `k`: in place when the key is known, at the end when it is new. -/
def set (k : κ) (v : υ) : Entries κ υ → Entries κ υ
  | [] => [(k, v)]
  | (k', v') :: rest => if k' = k then (k, v) :: rest else (k', v') :: set k v rest

/-- Drops `k`; an unknown key is ignored. -/
def erase (k : κ) (es : Entries κ υ) : Entries κ υ :=
  es.filter fun e => e.1 ≠ k

/-- The keys in order. -/
def keys (es : Entries κ υ) : List κ := es.map Prod.fst

/-- Whether `k` has a value. -/
def has (k : κ) (es : Entries κ υ) : Bool := (get? k es).isSome

/-- Stores every pair of `added` in turn. -/
def update (es added : Entries κ υ) : Entries κ υ :=
  added.foldl (fun acc e => set e.1 e.2 acc) es

/-- Reads a sequence of pairs: a repeated key keeps its first place and its last value. -/
def ofPairs (ps : List (κ × υ)) : Entries κ υ := update [] ps

@[simp] theorem get?_nil (k : κ) : get? k ([] : Entries κ υ) = none := rfl

theorem get?_set_self (k : κ) (v : υ) (es : Entries κ υ) : get? k (set k v es) = some v := by
  induction es with
  | nil => simp [set, get?]
  | cons e rest ih => by_cases h : e.1 = k <;> simp [set, get?, h, ih]

theorem get?_set_ne {k k' : κ} (h : k ≠ k') (v : υ) (es : Entries κ υ) :
    get? k' (set k v es) = get? k' es := by
  induction es with
  | nil => simp [set, get?, h]
  | cons e rest ih =>
    by_cases hk : e.1 = k
    · subst hk; simp [set, get?, h]
    · by_cases hk' : e.1 = k'
      · subst hk'; simp [set, get?, hk]
      · simp [set, get?, hk, hk', ih]

end Entries

end CredoAssistant
