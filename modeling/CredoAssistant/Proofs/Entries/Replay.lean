import CredoAssistant.Proofs.Entries
import Mathlib.Data.List.Induction
import Mathlib.Data.List.Pairwise

/-!
Entries as the replay of what was written to them. Which keys there are, what they hold and in which
order they stand is told by the log of the writes alone: a key holds what it was set to last, unless
it was removed since, and it stands where it was set first after its last removal. The statements
are about times, the positions of writes in the log, and are proved along the log from its end.
-/
namespace CredoAssistant.Entries

variable {κ υ : Type}

/-- A change of one entry. -/
inductive Write (κ υ : Type)
  | set (key : κ) (value : υ)
  | erase (key : κ)
  deriving DecidableEq, Repr

def Write.key : Write κ υ → κ
  | set key _ => key
  | erase key => key

/-- The entries behind a write. -/
def Write.apply [DecidableEq κ] (es : Entries κ υ) : Write κ υ → Entries κ υ
  | set key value => Entries.set key value es
  | erase key => Entries.erase key es

/-- The entries behind all writes of a log. -/
def replay [DecidableEq κ] (es : Entries κ υ) (log : List (Write κ υ)) : Entries κ υ :=
  log.foldl Write.apply es

/-- The write at a time, when no later one is of the same key. -/
structure IsLast (log : List (Write κ υ)) (time : Nat) (w : Write κ υ) : Prop where
  written : log[time]? = some w
  last : ∀ later v, time < later → log[later]? = some v → v.key ≠ w.key

/-- At this time a key is set for the first time since it was removed last. -/
structure Enters (log : List (Write κ υ)) (key : κ) (time : Nat) : Prop where
  written : ∃ value, log[time]? = some (.set key value)
  stays : ∀ later, time < later → log[later]? ≠ some (.erase key)
  earliest : ∀ earlier value, earlier < time → log[earlier]? = some (.set key value) →
    ∃ between, earlier < between ∧ between < time ∧ log[between]? = some (.erase key)

/-- Each time the key was set is over: it was removed later. -/
def IsOver (log : List (Write κ υ)) (key : κ) : Prop :=
  ∀ (time : Nat) (value : υ), log[time]? = some (.set key value) →
    ∃ later, time < later ∧ log[later]? = some (.erase key)

/-- The first of two keys entered before the second one. -/
def EntersBefore (log : List (Write κ υ)) (first second : κ) : Prop :=
  ∃ i j, Enters log first i ∧ Enters log second j ∧ i < j

/-- What a log tells of the entries that it leads to. -/
structure Chronicles [DecidableEq κ] (log : List (Write κ υ)) (es : Entries κ υ) : Prop where
  distinct : (keys es).Nodup
  size : (keys es).length = es.length
  present_iff : ∀ key, key ∈ keys es ↔ ∃ time value, IsLast log time (.set key value)
  found_iff : ∀ key value, get? key es = some value ↔ ∃ time, IsLast log time (.set key value)
  precedes_iff : ∀ first second, [first, second].Sublist (keys es) ↔ EntersBefore log first second
  replaced : ∀ key value, key ∈ keys es → keys (set key value es) = keys es
  renewed : ∀ key value, keys (set key value (erase key es)) = (keys es).filter (· ≠ key) ++ [key]

/-! ### Times -/

theorem getElem?_concat_eq_some_iff {log : List (Write κ υ)} {w v : Write κ υ} {time : Nat} :
    (log ++ [w])[time]? = some v ↔ log[time]? = some v ∨ time = log.length ∧ v = w := by
  rw [List.getElem?_append]
  split
  · rename_i early
    have apart : time ≠ log.length := Nat.ne_of_lt early
    simp [apart]
  · rename_i late
    have nothing : log[time]? = none := List.getElem?_eq_none (Nat.le_of_not_lt late)
    rw [nothing, List.getElem?_singleton]
    constructor
    · intro found
      split at found
      · exact .inr ⟨by omega, (Option.some.inj found).symm⟩
      · cases found
    · rintro (found | ⟨rfl, rfl⟩)
      · cases found
      · simp

theorem lt_of_getElem?_eq_some {log : List (Write κ υ)} {w : Write κ υ} {time : Nat}
    (found : log[time]? = some w) : time < log.length := (List.getElem?_eq_some_iff.mp found).1

/-- The write that is made now is the last of its key, and no earlier one of this key is. -/
theorem isLast_concat {log : List (Write κ υ)} {w v : Write κ υ} {time : Nat} :
    IsLast (log ++ [w]) time v ↔
      (time = log.length ∧ v = w) ∨ (IsLast log time v ∧ w.key ≠ v.key) := by
  constructor
  · rintro ⟨written, last⟩
    rcases getElem?_concat_eq_some_iff.mp written with before | now
    · have early := lt_of_getElem?_eq_some before
      refine .inr ⟨⟨before, fun later x after found => ?_⟩, ?_⟩
      · exact last later x after (getElem?_concat_eq_some_iff.mpr (.inl found))
      · exact last log.length w early List.getElem?_concat_length
    · exact .inl now
  · rintro (⟨rfl, rfl⟩ | ⟨⟨written, last⟩, apart⟩)
    · refine ⟨List.getElem?_concat_length, fun later x after found => ?_⟩
      rcases getElem?_concat_eq_some_iff.mp found with before | ⟨now, _⟩
      · have early := lt_of_getElem?_eq_some before
        omega
      · omega
    · refine ⟨getElem?_concat_eq_some_iff.mpr (.inl written), fun later x after found => ?_⟩
      rcases getElem?_concat_eq_some_iff.mp found with before | ⟨_, rfl⟩
      · exact last later x after before
      · exact apart

/-- A key enters at one time only. -/
theorem Enters.unique {log : List (Write κ υ)} {key : κ} {i j : Nat} (first : Enters log key i)
    (second : Enters log key j) : i = j := by
  have never {i j : Nat} (first : Enters log key i) (second : Enters log key j) : ¬ i < j := by
    intro before
    obtain ⟨value, written⟩ := first.written
    obtain ⟨between, after, _, removed⟩ := second.earliest i value before written
    exact first.stays between after removed
  exact Nat.le_antisymm (Nat.le_of_not_lt (never second first))
    (Nat.le_of_not_lt (never first second))

theorem Enters.lt_length {log : List (Write κ υ)} {key : κ} {time : Nat}
    (enters : Enters log key time) : time < log.length := by
  obtain ⟨value, written⟩ := enters.written
  exact lt_of_getElem?_eq_some written

/-- A write of one key leaves all times of the other keys as they are. -/
theorem enters_concat_of_ne {log : List (Write κ υ)} {w : Write κ υ} {key : κ} (apart : w.key ≠ key)
    (time : Nat) : Enters (log ++ [w]) key time ↔ Enters log key time := by
  have still {v : Write κ υ} (same : v.key = key) (t : Nat) :
      (log ++ [w])[t]? = some v ↔ log[t]? = some v := by
    rw [getElem?_concat_eq_some_iff]
    refine or_iff_left fun now => apart ?_
    rw [← now.2, same]
  have sets (t : Nat) (value : υ) := still (v := .set key value) rfl t
  have erases := still (v := .erase key) rfl
  constructor
  · rintro ⟨written, stays, earliest⟩
    simp only [sets, erases, ne_eq] at written stays earliest
    exact ⟨written, stays, earliest⟩
  · rintro ⟨written, stays, earliest⟩
    constructor
    · simpa only [sets] using written
    · simpa only [erases, ne_eq] using stays
    · simpa only [sets, erases] using earliest

theorem not_enters_concat_erase (log : List (Write κ υ)) (key : κ) (time : Nat) :
    ¬ Enters (log ++ [.erase key]) key time := by
  rintro ⟨⟨value, written⟩, stays, _⟩
  rcases getElem?_concat_eq_some_iff.mp written with before | ⟨_, same⟩
  · exact stays log.length (lt_of_getElem?_eq_some before) List.getElem?_concat_length
  · cases same

/-- A key that is there keeps the time of its entrance when it is set again. -/
theorem Enters.concat_set {log : List (Write κ υ)} {key : κ} {time : Nat}
    (enters : Enters log key time) (value : υ) : Enters (log ++ [.set key value]) key time := by
  obtain ⟨⟨first, written⟩, stays, earliest⟩ := enters
  refine ⟨⟨first, getElem?_concat_eq_some_iff.mpr (.inl written)⟩, ?_, ?_⟩
  · intro later after removed
    rcases getElem?_concat_eq_some_iff.mp removed with before | ⟨_, same⟩
    · exact stays later after before
    · cases same
  · intro earlier other before set
    rcases getElem?_concat_eq_some_iff.mp set with known | ⟨now, _⟩
    · obtain ⟨between, after, until_, removed⟩ := earliest earlier other before known
      exact ⟨between, after, until_, getElem?_concat_eq_some_iff.mpr (.inl removed)⟩
    · have early := lt_of_getElem?_eq_some written
      omega

/-- A key that is set enters now when each earlier time is over. -/
theorem IsOver.enters {log : List (Write κ υ)} {key : κ} (past : IsOver log key) (value : υ) :
    Enters (log ++ [.set key value]) key log.length := by
  refine ⟨⟨value, List.getElem?_concat_length⟩, ?_, ?_⟩
  · intro later after removed
    rcases getElem?_concat_eq_some_iff.mp removed with before | ⟨_, same⟩
    · have early := lt_of_getElem?_eq_some before
      omega
    · cases same
  · intro earlier other before set
    rcases getElem?_concat_eq_some_iff.mp set with known | ⟨now, _⟩
    · obtain ⟨later, after, removed⟩ := past earlier other known
      exact ⟨later, after, lt_of_getElem?_eq_some removed,
        getElem?_concat_eq_some_iff.mpr (.inl removed)⟩
    · omega

/-! ### Entries behind a log -/

/-- Of two members of a list one stands before the other. -/
theorem pair_sublist {l : List κ} {a b : κ} (first : a ∈ l) (second : b ∈ l) (apart : a ≠ b) :
    [a, b].Sublist l ∨ [b, a].Sublist l := by
  have ordered : l.Pairwise fun a b => [a, b].Sublist l ∨ [b, a].Sublist l :=
    List.pairwise_iff_forall_sublist.mpr fun stands => .inl stands
  have either : Std.Symm fun a b : κ => [a, b].Sublist l ∨ [b, a].Sublist l := ⟨fun _ _ => Or.symm⟩
  exact ordered.forall first second apart

section Replay

variable [DecidableEq κ] {log : List (Write κ υ)} {key : κ}

theorem replay_append (es : Entries κ υ) (log more : List (Write κ υ)) :
    replay es (log ++ more) = replay (replay es log) more := List.foldl_append

theorem replay_concat (es : Entries κ υ) (log : List (Write κ υ)) (w : Write κ υ) :
    replay es (log ++ [w]) = w.apply (replay es log) := replay_append es log [w]

theorem nodup_keys_replay (log : List (Write κ υ)) : (keys (replay [] log)).Nodup := by
  induction log using List.reverseRecOn with
  | nil => exact List.nodup_nil
  | append_singleton log w ih =>
    rw [replay_concat]
    cases w with
    | set key value => exact nodup_keys_set ih
    | erase key => exact nodup_keys_erase ih

/-- What is found is what the last write of the key has set. -/
theorem get?_replay_iff {value : υ} :
    get? key (replay [] log) = some value ↔ ∃ time, IsLast log time (.set key value) := by
  induction log using List.reverseRecOn with
  | nil =>
    refine iff_of_false nofun ?_
    rintro ⟨time, written, _⟩
    cases written
  | append_singleton log w ih =>
    simp only [replay_concat, isLast_concat, exists_or, exists_eq_left, exists_and_right, ← ih]
    cases w with
    | set other put =>
      by_cases same : other = key
      · subst same
        simp [Write.apply, Write.key, get?_set_self, eq_comm]
      · simp [Write.apply, Write.key, get?_set_ne same, same, Ne.symm same]
    | erase other =>
      by_cases same : other = key
      · subst same
        simp [Write.apply, Write.key, get?_erase_self]
      · simp [Write.apply, Write.key, get?_erase_ne same, same]

theorem isOver_of_notMem (absent : key ∉ keys (replay [] log)) : IsOver log key := by
  induction log using List.reverseRecOn with
  | nil => exact nofun
  | append_singleton log w ih =>
    intro time value written
    have bound := lt_of_getElem?_eq_some written
    rw [List.length_append, List.length_singleton] at bound
    by_cases removed : w = .erase key
    · -- The removal that is made now ends every earlier time.
      subst removed
      rcases getElem?_concat_eq_some_iff.mp written with before | ⟨_, same⟩
      · exact ⟨log.length, lt_of_getElem?_eq_some before, List.getElem?_concat_length⟩
      · cases same
    · have apart : w.key ≠ key ∧ key ∉ keys (replay [] log) := by
        rw [replay_concat] at absent
        cases w with
        | set other put =>
          rw [Write.apply, mem_keys_set, not_or] at absent
          exact ⟨Ne.symm absent.1, absent.2⟩
        | erase other =>
          have other_ne : other ≠ key := fun same => removed (congrArg Write.erase same)
          rw [Write.apply, mem_keys_erase, not_and] at absent
          exact ⟨other_ne, absent (Ne.symm other_ne)⟩
      rcases getElem?_concat_eq_some_iff.mp written with before | ⟨_, same⟩
      · obtain ⟨later, after, erased⟩ := ih apart.2 time value before
        exact ⟨later, after, getElem?_concat_eq_some_iff.mpr (.inl erased)⟩
      · exact absurd (congrArg Write.key same.symm) apart.1

/-- The keys that are there are those that have entered. -/
theorem mem_keys_replay_iff :
    key ∈ keys (replay [] log) ↔ ∃ time, Enters log key time := by
  induction log using List.reverseRecOn with
  | nil =>
    refine iff_of_false List.not_mem_nil ?_
    rintro ⟨time, ⟨value, written⟩, _⟩
    cases written
  | append_singleton log w ih =>
    by_cases apart : w.key ≠ key
    · simp only [enters_concat_of_ne apart, replay_concat]
      rw [← ih]
      cases w with
      | set other value => exact mem_keys_set.trans (or_iff_right (Ne.symm apart))
      | erase other => exact mem_keys_erase.trans (and_iff_right (Ne.symm apart))
    · rw [ne_eq, not_not] at apart
      subst apart
      rw [replay_concat]
      cases w with
      | set key value =>
        refine iff_of_true (mem_keys_set.mpr (.inl rfl)) ?_
        by_cases known : key ∈ keys (replay [] log)
        · obtain ⟨time, enters⟩ := ih.mp known
          exact ⟨time, enters.concat_set value⟩
        · exact ⟨log.length, (isOver_of_notMem known).enters value⟩
      | erase key =>
        refine iff_of_false (fun there => (mem_keys_erase.mp there).1 rfl) ?_
        rintro ⟨time, enters⟩
        exact not_enters_concat_erase log key time enters

/-- The keys stand in the order in which they entered. -/
theorem pairwise_keys_replay (log : List (Write κ υ)) :
    (keys (replay [] log)).Pairwise (EntersBefore log) := by
  induction log using List.reverseRecOn with
  | nil => exact List.Pairwise.nil
  | append_singleton log w ih =>
    rw [replay_concat]
    cases w with
    | erase key =>
      have kept : (keys (erase key (replay [] log))).Pairwise (EntersBefore log) :=
        ih.sublist (keys_filter_sublist (fun e : κ × υ => decide (e.1 ≠ key)) _)
      refine kept.imp_of_mem fun {a b} there behind before => ?_
      have first : Write.key (.erase key : Write κ υ) ≠ a := Ne.symm (mem_keys_erase.mp there).1
      have second : Write.key (.erase key : Write κ υ) ≠ b := Ne.symm (mem_keys_erase.mp behind).1
      simp only [EntersBefore, enters_concat_of_ne first, enters_concat_of_ne second]
      exact before
    | set key value =>
      -- Entrances stay where they are, whether of this key or of another one.
      have still {k : κ} {time : Nat} (enters : Enters log k time) :
          Enters (log ++ [.set key value]) k time := by
        by_cases same : key = k
        · subst same
          exact enters.concat_set value
        · have apart : Write.key (.set key value : Write κ υ) ≠ k := same
          exact (enters_concat_of_ne apart time).mpr enters
      have before : (keys (replay [] log)).Pairwise (EntersBefore (log ++ [.set key value])) := by
        refine ih.imp fun {a b} ordered => ?_
        obtain ⟨i, j, first, second, order⟩ := ordered
        exact ⟨i, j, still first, still second, order⟩
      rw [Write.apply, keys_set]
      split
      · exact before
      · rename_i fresh
        refine List.pairwise_append.mpr ⟨before, List.pairwise_singleton _ _, ?_⟩
        intro k known last only
        obtain ⟨time, enters⟩ := mem_keys_replay_iff.mp known
        rw [List.mem_singleton.mp only]
        exact ⟨time, log.length, still enters, (isOver_of_notMem fresh).enters value,
          enters.lt_length⟩

theorem sublist_keys_replay_iff {first second : κ} :
    [first, second].Sublist (keys (replay [] log)) ↔ EntersBefore log first second := by
  have ordered : ∀ {a b : κ}, [a, b].Sublist (keys (replay [] log)) → EntersBefore log a b :=
    List.pairwise_iff_forall_sublist.mp (pairwise_keys_replay log)
  constructor
  · exact ordered
  · rintro ⟨i, j, entrance, later, order⟩
    have apart : first ≠ second := by
      rintro rfl
      exact Nat.ne_of_lt order (entrance.unique later)
    have either := pair_sublist (mem_keys_replay_iff.mpr ⟨i, entrance⟩)
      (mem_keys_replay_iff.mpr ⟨j, later⟩) apart
    refine either.resolve_right fun reversed => ?_
    -- In the other order the times would be so too.
    obtain ⟨k, l, second_, first_, reverse⟩ := ordered reversed
    rw [second_.unique later, first_.unique entrance] at reverse
    omega

theorem chronicles_replay (log : List (Write κ υ)) : Chronicles log (replay [] log) := by
  constructor
  case distinct => exact nodup_keys_replay log
  case size => exact List.length_map Prod.fst
  case present_iff =>
    intro key
    rw [mem_keys_iff]
    simp only [get?_replay_iff]
    exact exists_comm
  case found_iff => exact fun key value => get?_replay_iff
  case precedes_iff => exact fun first second => sublist_keys_replay_iff
  case replaced =>
    intro key value known
    rw [keys_set, if_pos known]
  case renewed =>
    intro key value
    have gone : key ∉ keys (erase key (replay [] log)) := fun there =>
      (mem_keys_erase.mp there).1 rfl
    rw [keys_set, if_neg gone, keys_erase]

/-- A key that is set again stays in its place; one that was removed comes last. -/
example : replay [] [.set 'a' 1, .set 'b' 2, .set 'a' 3, .erase 'b', .set 'c' 4, .set 'b' 5] =
    [('a', 3), ('c', 4), ('b', 5)] := by decide

end Replay

end CredoAssistant.Entries
