import CredoAssistant.Entries
import Mathlib.Data.List.Nodup

/-!
Laws of insertion-ordered lists: what is found after an entry is dropped or others are stored on
top, and which keys a change leaves. Which keys there are, and in which order, never depends on the
values.
-/
namespace CredoAssistant.Entries

variable {κ υ : Type} [DecidableEq κ]

theorem get?_erase_self (k : κ) (es : Entries κ υ) : get? k (erase k es) = none := by
  induction es with
  | nil => rfl
  | cons e rest ih =>
    by_cases h : e.1 = k
    · simpa [erase, h] using ih
    · simpa [erase, get?, h] using ih

theorem get?_erase_ne {k k' : κ} (h : k ≠ k') (es : Entries κ υ) :
    get? k' (erase k es) = get? k' es := by
  induction es with
  | nil => rfl
  | cons e rest ih =>
    by_cases hk : e.1 = k
    · subst hk
      simpa [erase, get?, h] using ih
    · by_cases hk' : e.1 = k'
      · subst hk'
        simp [erase, get?, hk]
      · simpa [erase, get?, hk, hk'] using ih

theorem mem_keys_set {k k' : κ} {v : υ} {es : Entries κ υ} :
    k' ∈ keys (set k v es) ↔ k' = k ∨ k' ∈ keys es := by
  induction es with
  | nil => simp [set, keys]
  | cons e rest ih =>
    by_cases h : e.1 = k
    · simp [set, keys, h]
    · simp only [set, h, if_false, keys, List.map_cons, List.mem_cons] at ih ⊢
      rw [ih]
      exact or_left_comm

theorem mem_keys_erase {k k' : κ} {es : Entries κ υ} :
    k' ∈ keys (erase k es) ↔ k' ≠ k ∧ k' ∈ keys es := by
  simp only [keys, erase, List.mem_map, List.mem_filter, decide_eq_true_eq]
  constructor
  · rintro ⟨e, ⟨he, hk⟩, rfl⟩
    exact ⟨hk, e, he, rfl⟩
  · rintro ⟨hk, e, he, rfl⟩
    exact ⟨e, ⟨he, hk⟩, rfl⟩

omit [DecidableEq κ] in
@[simp] theorem keys_cons (e : κ × υ) (es : Entries κ υ) : keys (e :: es) = e.1 :: keys es := rfl

theorem get?_eq_none_iff {k : κ} {es : Entries κ υ} : get? k es = none ↔ k ∉ keys es := by
  induction es with
  | nil => simp [keys]
  | cons e rest ih =>
    by_cases h : e.1 = k
    · simp [get?, keys, h]
    · simpa [get?, keys, h, Ne.symm h] using ih

theorem mem_keys_iff {k : κ} {es : Entries κ υ} : k ∈ keys es ↔ ∃ v, get? k es = some v := by
  rw [← not_iff_not, ← get?_eq_none_iff, ← Option.isSome_iff_exists, Option.not_isSome_iff_eq_none]

theorem mem_of_get? {k : κ} {v : υ} {es : Entries κ υ} (found : get? k es = some v) :
    (k, v) ∈ es := by
  induction es with
  | nil => cases found
  | cons e rest ih =>
    unfold get? at found
    split at found
    · rename_i here
      cases found
      cases here
      exact List.mem_cons_self
    · exact List.mem_cons_of_mem e (ih found)

/-- With distinct keys every entry is found. -/
theorem get?_eq_some_iff {k : κ} {v : υ} {es : Entries κ υ} (distinct : (keys es).Nodup) :
    get? k es = some v ↔ (k, v) ∈ es := by
  refine ⟨mem_of_get?, fun inside => ?_⟩
  induction es with
  | nil => cases inside
  | cons e rest ih =>
    obtain ⟨fresh, distinct⟩ := List.nodup_cons.mp distinct
    rcases List.mem_cons.mp inside with rfl | later
    · simp [get?]
    · have other : e.1 ≠ k := by
        rintro rfl
        exact fresh (List.mem_map.mpr ⟨_, later, rfl⟩)
      simpa [get?, other] using ih distinct later

theorem get?_map_values {ω : Type} (f : υ → ω) (k : κ) (es : Entries κ υ) :
    get? k (es.map fun e => (e.1, f e.2)) = (get? k es).map f := by
  induction es with
  | nil => rfl
  | cons e rest ih =>
    by_cases h : e.1 = k
    · simp [get?, h]
    · simpa [get?, h] using ih

omit [DecidableEq κ] in
theorem keys_map_keys (g : κ → υ) (ks : List κ) : keys (ks.map fun k => (k, g k)) = ks := by
  simp [keys, Function.comp_def]

/-- Entries that are made from their keys. -/
theorem get?_map_keys {k : κ} {ks : List κ} (g : κ → υ) (known : k ∈ ks) :
    get? k (ks.map fun k => (k, g k)) = some (g k) := by
  induction ks with
  | nil => cases known
  | cons k' ks ih =>
    by_cases here : k' = k
    · simp [get?, here]
    · simpa [get?, here] using ih ((List.mem_cons.mp known).resolve_left (Ne.symm here))

omit [DecidableEq κ] in
theorem keys_filter_sublist (p : κ × υ → Bool) (es : Entries κ υ) :
    (keys (es.filter p)).Sublist (keys es) :=
  List.filter_sublist.map Prod.fst

theorem get?_filter_values {es : Entries κ υ} (distinct : (keys es).Nodup) (p : υ → Bool) (k : κ) :
    get? k (es.filter fun e => p e.2) = (get? k es).filter p := by
  induction es with
  | nil => rfl
  | cons e rest ih =>
    obtain ⟨fresh, distinct⟩ := List.nodup_cons.mp distinct
    by_cases here : e.1 = k
    · subst here
      have absent : e.1 ∉ keys (rest.filter fun e => p e.2) := fun has =>
        fresh ((keys_filter_sublist _ rest).subset has)
      cases kept : p e.2 with
      | true => simp [get?, Option.filter, kept]
      | false => simpa [get?, Option.filter, kept] using get?_eq_none_iff.mpr absent
    · cases kept : p e.2 with
      | true => simpa [get?, here, kept] using ih distinct
      | false => simpa [get?, here, kept] using ih distinct

theorem keys_set (k : κ) (v : υ) (es : Entries κ υ) :
    keys (set k v es) = if k ∈ keys es then keys es else keys es ++ [k] := by
  induction es with
  | nil => rfl
  | cons e rest ih =>
    by_cases h : e.1 = k
    · simp [set, keys, h]
    · simp only [set, h, if_false, keys_cons, List.mem_cons, Ne.symm h, false_or]
      rw [ih]
      split <;> rfl

theorem keys_erase (k : κ) (es : Entries κ υ) :
    keys (erase k es) = (keys es).filter (· ≠ k) := by
  simp [keys, erase, List.filter_map, Function.comp_def]

theorem nodup_keys_erase {k : κ} {es : Entries κ υ} (distinct : (keys es).Nodup) :
    (keys (erase k es)).Nodup := by
  rw [keys_erase]
  exact distinct.filter _

theorem nodup_keys_set {k : κ} {v : υ} {es : Entries κ υ} (distinct : (keys es).Nodup) :
    (keys (set k v es)).Nodup := by
  rw [keys_set]
  split
  · exact distinct
  · rename_i fresh
    exact List.Nodup.append distinct (List.nodup_singleton k) (by simpa using fresh)

theorem keys_set_congr {ω : Type} (k : κ) (v : υ) (w : ω) {es : Entries κ υ} {fs : Entries κ ω}
    (same : keys es = keys fs) : keys (set k v es) = keys (set k w fs) := by
  rw [keys_set, keys_set, same]

theorem update_cons (es : Entries κ υ) (e : κ × υ) (rest : Entries κ υ) :
    update es (e :: rest) = update (set e.1 e.2 es) rest := rfl

theorem mem_keys_update {k : κ} {es added : Entries κ υ} :
    k ∈ keys (update es added) ↔ k ∈ keys es ∨ k ∈ keys added := by
  induction added generalizing es with
  | nil => simp [update, keys]
  | cons e rest ih =>
    rw [update_cons, ih, mem_keys_set, keys_cons, List.mem_cons, or_assoc, or_left_comm]

theorem mem_of_mem_set {k : κ} {v : υ} {es : Entries κ υ} {e : κ × υ} (inside : e ∈ set k v es) :
    e = (k, v) ∨ e ∈ es := by
  induction es with
  | nil => exact .inl (List.mem_singleton.mp inside)
  | cons f rest ih =>
    unfold set at inside
    split at inside
    · exact (List.mem_cons.mp inside).imp_right (List.mem_cons_of_mem f)
    · rcases List.mem_cons.mp inside with rfl | later
      · exact .inr List.mem_cons_self
      · exact (ih later).imp_right (List.mem_cons_of_mem f)

theorem mem_of_mem_update {es added : Entries κ υ} {e : κ × υ} (inside : e ∈ update es added) :
    e ∈ es ∨ e ∈ added := by
  induction added generalizing es with
  | nil => exact .inl inside
  | cons p rest ih =>
    rcases ih inside with known | later
    · rcases mem_of_mem_set known with rfl | known
      · exact .inr List.mem_cons_self
      · exact .inl known
    · exact .inr (List.mem_cons_of_mem p later)

/-- Pairs that are read as entries are kept or dropped, never changed. -/
theorem mem_of_mem_ofPairs {ps : List (κ × υ)} {e : κ × υ} (inside : e ∈ ofPairs ps) : e ∈ ps :=
  (mem_of_mem_update inside).resolve_left List.not_mem_nil

theorem nodup_keys_update {es added : Entries κ υ} (distinct : (keys es).Nodup) :
    (keys (update es added)).Nodup := by
  induction added generalizing es with
  | nil => exact distinct
  | cons e rest ih => exact ih (nodup_keys_set distinct)

theorem keys_update_congr {ω : Type} {es added : Entries κ υ} {fs new : Entries κ ω}
    (same : keys es = keys fs) (alike : keys added = keys new) :
    keys (update es added) = keys (update fs new) := by
  induction added generalizing es fs new with
  | nil =>
    cases new with
    | nil => exact same
    | cons e rest => cases alike
  | cons e rest ih =>
    cases new with
    | nil => cases alike
    | cons e' rest' =>
      rw [keys_cons, keys_cons, List.cons.injEq] at alike
      have stored : keys (set e.1 e.2 es) = keys (set e'.1 e'.2 fs) := by
        rw [alike.1]
        exact keys_set_congr e'.1 e.2 e'.2 same
      rw [update_cons, update_cons]
      exact ih stored alike.2

/-- What is stored on top wins. -/
theorem get?_update {added : Entries κ υ} (distinct : (keys added).Nodup) (k : κ)
    (es : Entries κ υ) : get? k (update es added) = (get? k added).or (get? k es) := by
  induction added generalizing es with
  | nil => rfl
  | cons e rest ih =>
    obtain ⟨fresh, distinct⟩ := List.nodup_cons.mp distinct
    rw [update_cons, ih distinct]
    by_cases here : e.1 = k
    · subst here
      rw [get?_eq_none_iff.mpr fresh, get?_set_self]
      simp [get?]
    · rw [get?_set_ne here]
      simp [get?, here]

/-- Entries with the same keys in the same order are the same when they hold the same values. -/
theorem ext_of_keys {es fs : Entries κ υ} (same : keys es = keys fs) (distinct : (keys es).Nodup)
    (values : ∀ k, get? k es = get? k fs) : es = fs := by
  induction es generalizing fs with
  | nil =>
    cases fs with
    | nil => rfl
    | cons e rest => cases same
  | cons e rest ih =>
    cases fs with
    | nil => cases same
    | cons f more =>
      rw [keys_cons, keys_cons, List.cons.injEq] at same
      obtain ⟨key, same⟩ := same
      obtain ⟨fresh, distinct⟩ := List.nodup_cons.mp distinct
      have value := values e.1
      simp only [get?, if_true, ← key, Option.some.injEq] at value
      have behind : ∀ k, get? k rest = get? k more := by
        intro k
        by_cases here : e.1 = k
        · subst here
          have absent : e.1 ∉ keys more := same ▸ fresh
          rw [get?_eq_none_iff.mpr fresh, get?_eq_none_iff.mpr absent]
        · simpa [get?, here, ← key] using values k
      rw [ih same distinct behind, Prod.ext key value]

theorem set_of_notMem {k : κ} {es : Entries κ υ} (fresh : k ∉ keys es) (v : υ) :
    set k v es = es ++ [(k, v)] := by
  induction es with
  | nil => rfl
  | cons e rest ih =>
    simp only [keys, List.map_cons, List.mem_cons, not_or] at fresh
    simp only [set, Ne.symm fresh.1, if_false, List.cons_append, ih fresh.2]

theorem update_of_nodup {es added : Entries κ υ} (distinct : (keys (es ++ added)).Nodup) :
    update es added = es ++ added := by
  induction added generalizing es with
  | nil => exact (List.append_nil es).symm
  | cons e rest ih =>
    have fresh : e.1 ∉ keys es := by
      simp only [keys, List.map_append, List.map_cons] at distinct
      exact fun known => List.disjoint_of_nodup_append distinct known List.mem_cons_self
    have whole : es ++ e :: rest = es ++ [e] ++ rest := by simp
    rw [whole] at distinct ⊢
    rw [← ih distinct, update, List.foldl_cons, set_of_notMem fresh]
    rfl

/-- Pairs whose keys are distinct are entries as they stand. -/
theorem ofPairs_eq_self {ps : Entries κ υ} (distinct : (keys ps).Nodup) : ofPairs ps = ps :=
  update_of_nodup distinct

theorem get?_set (k k' : κ) (v : υ) (es : Entries κ υ) :
    get? k' (set k v es) = if k = k' then some v else get? k' es := by
  split
  · rename_i same
    subst same
    exact get?_set_self k v es
  · rename_i other
    exact get?_set_ne other v es

/-- What is found after storing pairs in turn is the last pair of that key, or else what was there
before. -/
theorem get?_update_eq_some_iff {k : κ} {v : υ} {es added : Entries κ υ} :
    get? k (update es added) = some v ↔
      (∃ before after, added = before ++ (k, v) :: after ∧ k ∉ keys after) ∨
        (k ∉ keys added ∧ get? k es = some v) := by
  induction added generalizing es with
  | nil => simp [update, keys]
  | cons e rest ih =>
    rw [update_cons, ih, get?_set]
    constructor
    · rintro (⟨before, after, rfl, fresh⟩ | ⟨fresh, found⟩)
      · exact .inl ⟨e :: before, after, rfl, fresh⟩
      · split at found
        · rename_i here
          cases found
          exact .inl ⟨[], rest, by rw [← here]; rfl, fresh⟩
        · rename_i other
          exact .inr ⟨by simp [fresh, Ne.symm other], found⟩
    · rintro (⟨before, after, order, fresh⟩ | ⟨fresh, found⟩)
      · cases before with
        | nil =>
          cases order
          exact .inr ⟨fresh, if_pos rfl⟩
        | cons f before =>
          cases order
          exact .inl ⟨before, after, rfl, fresh⟩
      · rw [keys_cons, List.mem_cons, not_or] at fresh
        exact .inr ⟨fresh.2, by rw [if_neg (Ne.symm fresh.1), found]⟩

/-- Of the pairs with one key the last is found. -/
theorem get?_ofPairs_eq_some_iff {k : κ} {v : υ} {ps : List (κ × υ)} :
    get? k (ofPairs ps) = some v ↔
      ∃ before after, ps = before ++ (k, v) :: after ∧ k ∉ keys after := by
  rw [ofPairs, get?_update_eq_some_iff]
  simp

theorem map_set {ω : Type} (f : υ → ω) (k : κ) (v : υ) (es : Entries κ υ) :
    (set k v es).map (fun e => (e.1, f e.2)) = set k (f v) (es.map fun e => (e.1, f e.2)) := by
  induction es with
  | nil => rfl
  | cons e rest ih =>
    by_cases here : e.1 = k
    · simp [set, here]
    · simp [set, here, ih]

theorem map_update {ω : Type} (f : υ → ω) (es added : Entries κ υ) :
    (update es added).map (fun e => (e.1, f e.2)) =
      update (es.map fun e => (e.1, f e.2)) (added.map fun e => (e.1, f e.2)) := by
  induction added generalizing es with
  | nil => rfl
  | cons e rest ih => rw [update_cons, ih, map_set, List.map_cons, update_cons]

theorem get?_update_of_notMem {k : κ} {added : Entries κ υ} (absent : k ∉ keys added)
    (es : Entries κ υ) : get? k (update es added) = get? k es := by
  induction added generalizing es with
  | nil => rfl
  | cons e rest ih =>
    rw [keys_cons, List.mem_cons, not_or] at absent
    rw [update_cons, ih absent.2, get?_set_ne (Ne.symm absent.1)]

/-- A value that is stored again later makes no difference. -/
theorem update_set_masked {k : κ} {es added : Entries κ υ} (distinct : (keys es).Nodup)
    (masked : k ∈ keys added) (v w : υ) :
    update (set k v es) added = update (set k w es) added := by
  have same : keys (update (set k v es) added) = keys (update (set k w es) added) :=
    keys_update_congr (keys_set_congr k v w rfl) rfl
  refine ext_of_keys same (nodup_keys_update (nodup_keys_set distinct)) fun j => ?_
  ext x
  rw [get?_update_eq_some_iff, get?_update_eq_some_iff]
  refine or_congr_right (and_congr_right fun absent => ?_)
  have apart : k ≠ j := by
    rintro rfl
    exact absent masked
  rw [get?_set_ne apart, get?_set_ne apart]

end CredoAssistant.Entries
