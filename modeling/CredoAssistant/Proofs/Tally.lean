import CredoAssistant.Proofs.Diagnostic.Mapping
import CredoAssistant.Tally
import Mathlib.Algebra.BigOperators.Group.List.Basic
import Mathlib.Data.List.Count
import Mathlib.Data.List.Nodup

/-!
Tallies before and after mapping. Issues are counted by the numerals of their priorities,
diagnostics by the names of their severities. The counts of priorities add up to the number of
issues exactly when all issues map; then both tallies hold the same counts, bucket by bucket, and
otherwise the counts fall short by the issues that do not map.
-/
namespace CredoAssistant

theorem Decimal.text_eq_toString (i : Int) : Decimal.text i = toString i := by
  cases i with
  | ofNat n => rfl
  | negSucc n =>
    rw [Decimal.text, Decimal.integer, if_pos (Int.negSucc_lt_zero n)]
    exact @String.ofList_append ['-'] _

theorem Decimal.text_injective : Function.Injective Decimal.text := by
  intro i j same
  have numerals : Decimal.integer i = Decimal.integer j := String.ofList_injective same
  have unsigned (n : Nat) (ds : List Char) : Decimal.digits n ≠ '-' :: ds := by
    intro minus
    have digit : '-'.isDigit = true := by
      refine Nat.isDigit_of_mem_toDigits (b := 10) (n := n) (by decide) (by decide) ?_
      rw [← Decimal.digits, minus]
      exact List.mem_cons_self
    exact absurd digit (by decide)
  have sizes {m n : Nat} (digits : Decimal.digits m = Decimal.digits n) : m = n := by
    rw [← Decimal.value_digits m, digits, Decimal.value_digits]
  unfold Decimal.integer at numerals
  split at numerals
  · split at numerals
    · have size := sizes (List.cons.inj numerals).2
      omega
    · exact absurd numerals.symm (unsigned _ _)
  · split at numerals
    · exact absurd numerals (unsigned _ _)
    · have size := sizes numerals
      omega

theorem Severity.name_injective : Function.Injective Severity.name := by
  intro s t
  cases s <;> cases t <;> decide

namespace Tally

theorem foldl_bump (keys buckets : List String) (start : String → Int) :
    keys.foldl (fun acc k => bump k acc) (buckets.map fun b => (b, start b)) =
      buckets.map fun b => (b, start b + (keys.count b : Nat)) := by
  induction keys generalizing start with
  | nil => simp
  | cons k keys ih =>
    have once : bump k (buckets.map fun b => (b, start b)) =
        buckets.map fun b => (b, if b = k then start b + 1 else start b) := by
      simp only [bump, List.map_map]
      refine List.map_congr_left fun b _ => ?_
      by_cases here : b = k <;> simp [here]
    rw [List.foldl_cons, once, ih]
    refine List.map_congr_left fun b _ => ?_
    by_cases here : b = k
    · subst here
      simp only [if_true, List.count_cons_self, Prod.mk.injEq, true_and]
      omega
    · simp [here, List.count_cons_of_ne (Ne.symm here)]

/-- A bucket counts the keys that are equal to it. -/
theorem count_eq (buckets keys : List String) :
    count buckets keys = buckets.map fun b => (b, ((keys.count b : Nat) : Int)) := by
  rw [count, foldl_bump]
  simp

/-- Distinct buckets count every key that is one of them once. -/
theorem sum_count {buckets : List String} (distinct : buckets.Nodup) (keys : List String) :
    ((count buckets keys).map Prod.snd).sum = (keys.countP (· ∈ buckets) : Nat) := by
  rw [count_eq, List.map_map]
  induction keys with
  | nil => simp [Function.comp_def]
  | cons k keys ih =>
    have here : buckets.count k = if k ∈ buckets then 1 else 0 := by
      by_cases known : k ∈ buckets
      · simp [known, List.count_eq_one_of_mem distinct known]
      · simp [known, List.count_eq_zero_of_not_mem known]
    have step : (buckets.map fun b => (((k :: keys).count b : Nat) : Int)) =
        buckets.map fun b => if b = k then (keys.count b : Int) + 1 else (keys.count b : Int) := by
      refine List.map_congr_left fun b _ => ?_
      by_cases here : b = k
      · simp [here]
      · simp [here, List.count_cons_of_ne (Ne.symm here)]
    simp only [Function.comp_def] at ih ⊢
    rw [step, List.sum_map_ite_eq, ih, List.countP_cons]
    simp [here, add_comm]

section Keys

variable {α β : Type} [DecidableEq β] {key : β → String}

/-- Items that are counted under the key of a feature, where different features have different keys.
-/
theorem count_map (injective : Function.Injective key) (feature : α → β) (bs : List β)
    (xs : List α) :
    count (bs.map key) (xs.map fun x => key (feature x)) =
      bs.map fun b => (key b, ((xs.countP (feature · = b) : Nat) : Int)) := by
  rw [count_eq, List.map_map]
  refine List.map_congr_left fun b _ => ?_
  have same (x : α) : (key (feature x) == key b) = decide (feature x = b) := by
    rw [Bool.beq_eq_decide_eq, decide_eq_decide, injective.eq_iff]
  simp only [Function.comp_def, List.count_eq_countP, List.countP_map, same]

theorem sum_count_map (injective : Function.Injective key) (feature : α → β) {bs : List β}
    (distinct : bs.Nodup) (xs : List α) :
    ((count (bs.map key) (xs.map fun x => key (feature x))).map Prod.snd).sum =
      (xs.countP (feature · ∈ bs) : Nat) := by
  rw [sum_count (distinct.map injective), List.countP_map]
  simp only [Function.comp_def, List.mem_map_of_injective injective]

end Keys

/-- The sum of all counts. -/
def sum (t : Tally) : Int := (t.counts.map Prod.snd).sum

/-- The priorities that have a bucket. -/
def priorities : List Int := [1, 2, 3, 4]

theorem mem_priorities_iff {i : Issue} :
    i.priority ∈ priorities ↔ ∃ d, Diagnostic.ofIssue i = .ok d := by
  rw [Diagnostic.exists_ofIssue_iff, Severity.isSome_ofPriority?_iff]
  simp only [priorities, List.mem_cons, List.not_mem_nil, or_false]
  omega

/-- The number of issues with a priority. -/
def withPriority (p : Int) (issues : List Issue) : Int := (issues.countP (·.priority = p) : Nat)

theorem text_priorities : priorities.map Decimal.text = ["1", "2", "3", "4"] := by decide

theorem counts_ofIssues (issues : List Issue) :
    (ofIssues issues).counts =
      priorities.map fun p => (Decimal.text p, withPriority p issues) := by
  rw [ofIssues, ← text_priorities]
  exact count_map Decimal.text_injective Issue.priority priorities issues

theorem sum_ofIssues (issues : List Issue) :
    (ofIssues issues).sum = (issues.countP (·.priority ∈ priorities) : Nat) := by
  have distinct : priorities.Nodup := by decide
  rw [sum, ofIssues, ← text_priorities]
  exact sum_count_map Decimal.text_injective Issue.priority distinct issues

theorem counts_ofDiagnostics (ds : List Diagnostic) :
    (ofDiagnostics ds).counts =
      Severity.all.map fun s => (s.name, ((ds.countP (·.severity = s) : Nat) : Int)) :=
  count_map Severity.name_injective Diagnostic.severity Severity.all ds

/-- Every severity has a bucket. -/
theorem sum_ofDiagnostics (ds : List Diagnostic) :
    (ofDiagnostics ds).sum = (ofDiagnostics ds).total := by
  have distinct : Severity.all.Nodup := by decide
  have whole := sum_count_map Severity.name_injective Diagnostic.severity distinct ds
  have known (s : Severity) : s ∈ Severity.all := by cases s <;> decide
  simp only [known, decide_true, List.countP_true] at whole
  exact whole

theorem priorities_of_ofIssues {issues : List Issue} {ds : List Diagnostic}
    (mapped : Diagnostic.ofIssues issues = .ok ds) :
    issues.map (·.priority) = ds.map (·.severity.priority) := by
  have each := Diagnostic.ofIssues_eq_ok_iff.mp mapped
  clear mapped
  induction each with
  | nil => rfl
  | cons first _ ih => rw [List.map_cons, List.map_cons, ih, Diagnostic.severity_of_ofIssue first]

/-- As many diagnostics have a severity as issues have the priority that maps to it. -/
theorem countP_severity {issues : List Issue} {ds : List Diagnostic}
    (mapped : Diagnostic.ofIssues issues = .ok ds) (s : Severity) :
    ds.countP (·.severity = s) = issues.countP (·.priority = s.priority) := by
  have same (t : Severity) : t.priority = s.priority ↔ t = s := by
    cases t <;> cases s <;> decide
  calc
    ds.countP (·.severity = s) = (ds.map (·.severity.priority)).countP (· = s.priority) := by
        simp [List.countP_map, Function.comp_def, same]
    _ = issues.countP (·.priority = s.priority) := by
        rw [← priorities_of_ofIssues mapped, List.countP_map]
        rfl

theorem get?_counts_eq {issues : List Issue} {ds : List Diagnostic}
    (mapped : Diagnostic.ofIssues issues = .ok ds) {p : Int} {s : Severity}
    (severity : Severity.ofPriority? p = some s) :
    Entries.get? s.name (ofDiagnostics ds).counts =
      Entries.get? (Decimal.text p) (ofIssues issues).counts := by
  obtain rfl := Severity.ofPriority?_eq_some_iff.mp severity
  rw [counts_ofDiagnostics, counts_ofIssues, priorities, Severity.all]
  simp only [List.map_cons, List.map_nil, countP_severity mapped]
  cases s <;> rfl

/-- An issue that maps to no diagnostic. -/
def isUnmapped (i : Issue) : Bool := (Diagnostic.ofIssue i).toOption.isNone

theorem isUnmapped_iff {i : Issue} : isUnmapped i = true ↔ i.priority ∉ priorities := by
  rw [mem_priorities_iff, isUnmapped]
  cases Diagnostic.ofIssue i <;> simp [Except.toOption]

/-- The issues that map and those that do not are all issues. -/
theorem sum_add_unmapped (issues : List Issue) :
    (ofIssues issues).sum + (issues.countP isUnmapped : Nat) = (ofIssues issues).total := by
  have apart : issues.countP isUnmapped = issues.countP fun i => ¬ i.priority ∈ priorities :=
    List.countP_congr fun i _ => by rw [isUnmapped_iff, decide_eq_true_eq]
  have all := List.length_eq_countP_add_countP (fun i : Issue => decide (i.priority ∈ priorities))
    (l := issues)
  rw [sum_ofIssues, apart]
  simp only [decide_eq_true_eq] at all
  simp only [ofIssues]
  omega

theorem sum_eq_total_iff {issues : List Issue} :
    (ofIssues issues).sum = (ofIssues issues).total ↔
      ∃ ds, Diagnostic.ofIssues issues = .ok ds := by
  have none : (∃ ds, Diagnostic.ofIssues issues = .ok ds) ↔ issues.countP isUnmapped = 0 := by
    simp only [Diagnostic.exists_ofIssues_iff, ← Diagnostic.exists_ofIssue_iff,
      ← mem_priorities_iff, List.countP_eq_zero, isUnmapped_iff, not_not]
  have all := sum_add_unmapped issues
  rw [none]
  omega

/-- What the tallies of some issues and of their diagnostics say. -/
structure Balances (issues : List Issue) : Prop where
  total : (ofIssues issues).total = issues.length
  counts : (ofIssues issues).counts =
    [("1", withPriority 1 issues), ("2", withPriority 2 issues), ("3", withPriority 3 issues),
      ("4", withPriority 4 issues)]
  mapped_iff : (ofIssues issues).sum = (ofIssues issues).total ↔
    ∃ ds, Diagnostic.ofIssues issues = .ok ds
  missing : (ofIssues issues).sum = (ofIssues issues).total - (issues.countP isUnmapped : Nat)
  short : (¬ ∃ ds, Diagnostic.ofIssues issues = .ok ds) →
    (ofIssues issues).sum < (ofIssues issues).total
  severities : ∀ ds, Diagnostic.ofIssues issues = .ok ds →
    (ofDiagnostics ds).total = (ofIssues issues).total ∧
      (ofDiagnostics ds).sum = (ofDiagnostics ds).total ∧
      Entries.keys (ofDiagnostics ds).counts = Severity.all.map Severity.name ∧
      ∀ p s, Severity.ofPriority? p = some s →
        Entries.get? s.name (ofDiagnostics ds).counts =
          Entries.get? (Decimal.text p) (ofIssues issues).counts

/-- The tallies of any issues and of their diagnostics agree. -/
theorem balances (issues : List Issue) : Balances issues := by
  have all := sum_add_unmapped issues
  constructor
  case total => rfl
  case counts =>
    rw [counts_ofIssues]
    rfl
  case mapped_iff => exact sum_eq_total_iff
  case missing => omega
  case short =>
    intro failed
    have unequal := mt sum_eq_total_iff.mp failed
    omega
  case severities =>
    intro ds mapped
    have lengths := congrArg List.length (priorities_of_ofIssues mapped)
    refine ⟨?_, sum_ofDiagnostics ds, ?_, fun p s => get?_counts_eq mapped⟩
    · simp only [List.length_map] at lengths
      simp only [ofDiagnostics, ofIssues, lengths]
    · rw [counts_ofDiagnostics]
      rfl

example :
    let issues := [4, 1, 9, 1, -1].map fun p => { (default : Issue) with priority := p }
    ((ofIssues issues).sum, (ofIssues issues).total, issues.countP isUnmapped) = (3, 5, 2) := by
  decide +kernel

end Tally

end CredoAssistant
