import CredoAssistant.Proofs.Entries
import CredoAssistant.Proofs.Json.RoundTrip
import CredoAssistant.Proofs.Report.Items

/-!
Which texts are reports. A text is accepted exactly when it is a JSON object whose last member named
`issues` lists nothing but issues, and there is room for its brackets; the issues are then those of
the list, one by one. Where there is room, any other text is refused as a whole, and where the list
is found its first item that is no issue is told by its number. A JSON text that nests too deep is
neither accepted nor refused: reading it ends at a bracket, and no handler is prepared for that.
Integers that are too long to be converted are left out.
-/
namespace CredoAssistant.Report

/-- The text is a JSON object whose last member named `issues` is the list of `items`. -/
def Presents (output : String) (items : List Value) : Prop :=
  ∃ before after,
    Json.Document (Json.DenotesMembers fun _ => True) output.toList
      (before ++ ("issues", .list items) :: after) ∧
    "issues" ∉ Entries.keys after

/-- There is room for the brackets of a text. -/
def HasRoom (stack : Stack) (output : String) : Prop :=
  Json.nesting output.toList ≤ stack.levels

/-- What becomes of a text. -/
structure Judged (stack : Stack) (output : String) : Prop where
  accepted : ∀ issues, read stack output = .ok issues ↔ HasRoom stack output ∧
    ∃ items, Presents output items ∧ List.Forall₂ (fun v i => Issue.ofValue v = .ok i) items issues
  refused : HasRoom stack output →
    (¬ ∃ items, Presents output items ∧ ∀ v ∈ items, ∃ i, Issue.ofValue v = .ok i) →
      ∃ flaw, read stack output = .error (.flawed ⟨flaw, output⟩)
  numbered : HasRoom stack output → ∀ before v after r, Presents output (before ++ v :: after) →
    (∀ w ∈ before, ∃ i, Issue.ofValue w = .ok i) → Issue.ofValue v = .error r →
      ∃ e, read stack output = .error (.flawed e) ∧ e.output = output ∧
        e.message = s!"Credo issue #{before.length} is malformed: {r.message}"
  failed : ∀ failure, read stack output = .error failure →
    (∃ flaw, failure = .flawed ⟨flaw, output⟩) ∨
      (∃ b, failure = .tooDeep b) ∧ ¬ HasRoom stack output
  deep : ¬ HasRoom stack output →
    (∃ v, Json.Document (Json.Denotes fun _ => True) output.toList v) →
      ∃ b, read stack output = .error (.tooDeep b)

variable {stack : Stack} {output : String}

theorem presents_iff (short : Json.IsShort output.toList) (room : HasRoom stack output)
    {items : List Value} :
    Presents output items ↔ ∃ ms, Json.read stack output.toList = .ok (.object ms) ∧
      Entries.get? "issues" ms = some (.list items) := by
  constructor
  · rintro ⟨before, after, document, last⟩
    exact ⟨_, (Json.read_eq_object_iff short room).mpr ⟨_, document, rfl⟩,
      Entries.get?_ofPairs_eq_some_iff.mpr ⟨before, after, rfl, last⟩⟩
  · rintro ⟨es, decoded, found⟩
    obtain ⟨ms, document, rfl⟩ := (Json.read_eq_object_iff short room).mp decoded
    obtain ⟨before, after, rfl, last⟩ := Entries.get?_ofPairs_eq_some_iff.mp found
    exact ⟨before, after, document, last⟩

theorem read_eq_ok_iff_presents (short : Json.IsShort output.toList) {issues : List Issue} :
    read stack output = .ok issues ↔ HasRoom stack output ∧
      ∃ items, Presents output items ∧
        List.Forall₂ (fun v i => Issue.ofValue v = .ok i) items issues := by
  rw [read_eq_ok_iff]
  constructor
  · rintro ⟨ms, items, decoded, found, each⟩
    have room : HasRoom stack output := Json.nesting_le_of_read decoded
    exact ⟨room, items, (presents_iff short room).mpr ⟨ms, decoded, found⟩, each⟩
  · rintro ⟨room, items, presented, each⟩
    obtain ⟨ms, decoded, found⟩ := (presents_iff short room).mp presented
    exact ⟨ms, items, decoded, found, each⟩

/-- A text without long integer literals is read, has a flaw, or nests too deep. -/
theorem failure_of_short (short : Json.IsShort output.toList) {failure : ReadFailure}
    (failed : read stack output = .error failure) :
    (∃ flaw, failure = .flawed ⟨flaw, output⟩) ∨
      (∃ b, failure = .tooDeep b) ∧ ¬ HasRoom stack output := by
  unfold read at failed
  cases decoded : Json.read stack output.toList with
  | error cause =>
    rw [decoded] at failed
    cases cause with
    | malformed cause left =>
      cases failed
      exact .inl ⟨.notJson cause left, rfl⟩
    | oversizedInteger n => exact absurd decoded (Json.read_ne_oversized short n)
    | tooDeep b =>
      cases failed
      exact .inr ⟨⟨b, rfl⟩, Nat.not_le.mpr (Json.lt_nesting_of_read decoded)⟩
  | ok v =>
    simp only [decoded] at failed
    split at failed
    · cases failed
      exact .inl ⟨_, rfl⟩
    · cases failed

/-- The items of a list are all issues when they are read as some. -/
theorem each_of_forall₂ {items : List Value} {issues : List Issue}
    (each : List.Forall₂ (fun v i => Issue.ofValue v = .ok i) items issues) :
    ∀ v ∈ items, ∃ i, Issue.ofValue v = .ok i := by
  induction each with
  | nil => nofun
  | cons first later ih => exact List.forall_mem_cons.mpr ⟨⟨_, first⟩, ih⟩

/-- The first item that is no issue is the flaw of a report. -/
theorem read_malformed (short : Json.IsShort output.toList) (room : HasRoom stack output)
    {before after : List Value} {v : Value} {r : Rejection}
    (presented : Presents output (before ++ v :: after))
    (sound : ∀ w ∈ before, ∃ i, Issue.ofValue w = .ok i) (failed : Issue.ofValue v = .error r) :
    read stack output = .error (.flawed ⟨.malformedIssue before.length r, output⟩) := by
  obtain ⟨ms, decoded, found⟩ := (presents_iff short room).mp presented
  have first : readIssues 0 (before ++ v :: after) = .error (.malformedIssue before.length r) :=
    readIssues_eq_error_iff.mpr ⟨before, v, after, r, rfl, sound, failed, by rw [Nat.zero_add]⟩
  simp only [read, decoded, ofValue, found, first]

theorem read_tooDeep {b : Json.Bracket}
    (decoded : Json.read stack output.toList = .error (.tooDeep b)) :
    read stack output = .error (.tooDeep b) := by
  rw [read, decoded]

/-- A text whose integers may be converted is judged by its list of issues, where there is room for
it. -/
theorem judged_of_short (stack : Stack) (short : Json.IsShort output.toList) :
    Judged stack output where
  accepted issues := read_eq_ok_iff_presents short
  refused room other := by
    cases result : read stack output with
    | ok issues =>
      obtain ⟨_, items, presented, each⟩ := (read_eq_ok_iff_presents short).mp result
      exact absurd ⟨items, presented, each_of_forall₂ each⟩ other
    | error failure =>
      obtain ⟨flaw, rfl⟩ | ⟨_, deep⟩ := failure_of_short short result
      · exact ⟨flaw, rfl⟩
      · exact absurd room deep
  numbered room before v after r presented sound failed :=
    ⟨_, read_malformed short room presented sound failed, rfl, rfl⟩
  failed failure := failure_of_short short
  deep none := fun ⟨v, document⟩ => by
    obtain ⟨b, decoded⟩ := Json.read_deep short document (Nat.lt_of_not_le none)
    exact ⟨b, read_tooDeep decoded⟩

/-- The members of an issue. -/
def single : Members :=
  [("category", .text "a"), ("check", .text "b"), ("line_no", .int 1), ("message", .text "c"),
   ("priority", .int 2)]

/-- The members of a report with two lists of issues; in the last one a number stands behind an
issue. -/
def lists : Members := [("issues", .list []), ("issues", .list [.object single, .int 7])]

def twice : String := Json.render .line (.object lists)

theorem toList_twice : twice.toList = Json.write .line 0 (.object lists) := by
  rw [twice, Json.render, String.toList_ofList]

theorem plain_lists : ∀ m ∈ lists, Json.Plain m.2 := by simp +decide [lists, single]

theorem presents_twice : Presents twice [.object single, .int 7] := by
  have members : Json.DenotesMembers (fun _ => True) (Json.write .line 0 (.object lists)) lists :=
    Json.denotesMembers_write fun m inside =>
      Json.denotes_of_plain (fun _ _ => trivial) (plain_lists m inside) 1
  refine ⟨[("issues", .list [])], [], ?_, List.not_mem_nil⟩
  rw [toList_twice]
  exact .bare members

theorem isShort_of_length (length : output.toList.length ≤ Json.maxDigits) :
    Json.IsShort output.toList := fun _ inside =>
  (Json.length_le_of_mem_integers inside).trans length

theorem isShort_twice : Json.IsShort twice.toList := isShort_of_length (by
  rw [toList_twice]
  decide +kernel)

theorem hasRoom_twice : HasRoom .usual twice := by
  have nests : Json.nesting (Json.write .line 0 (.object lists) ++ []) = _ :=
    Json.nests_object (fun m inside => Json.nests_of_plain (plain_lists m inside) 1) []
  rw [List.append_nil, ← toList_twice] at nests
  rw [HasRoom, nests]
  decide +kernel

theorem judged_twice :
    Json.IsShort twice.toList ∧ Presents twice [.object single, .int 7] ∧ HasRoom .usual twice ∧
      Judged .usual twice :=
  ⟨isShort_twice, presents_twice, hasRoom_twice, judged_of_short .usual isShort_twice⟩

/-! ### Deep texts -/

/-- Lists within each other, the innermost one empty. -/
def lair : Nat → Value
  | 0 => .list []
  | n + 1 => .list [lair n]

theorem plain_lair (n : Nat) : Json.Plain (lair n) := by
  induction n with
  | zero => exact .list nofun
  | succ n ih => exact .list (List.forall_mem_singleton.mpr ih)

theorem height_lair (n : Nat) : Json.height (lair n) = n + 1 := by
  induction n with
  | zero => rfl
  | succ n ih =>
    rw [lair, Json.height, Json.heightOfItems, Json.heightOfItems, Nat.max_zero, ih]

theorem length_lair (n depth : Nat) : (Json.write .line depth (lair n)).length = 2 * n + 2 := by
  induction n generalizing depth with
  | zero => rfl
  | succ n ih =>
    simp only [lair, Json.write, Json.writeItems, Json.Layout.gap, List.length_append,
      List.length_cons, List.length_nil, ih]
    omega

/-- A report of no issues whose other member is as deep as that. -/
def deepMembers (n : Nat) : Members := [("issues", .list []), ("deep", lair n)]

def deepReport (n : Nat) : String := Json.render .line (.object (deepMembers n))

theorem toList_deepReport (n : Nat) :
    (deepReport n).toList = Json.write .line 0 (.object (deepMembers n)) := by
  rw [deepReport, Json.render, String.toList_ofList]

theorem plain_deepMembers (n : Nat) : ∀ m ∈ deepMembers n, Json.Plain m.2 := by
  simp [deepMembers, plain_lair]

theorem presents_deepReport (n : Nat) : Presents (deepReport n) [] := by
  refine ⟨[], [("deep", lair n)], ?_, by simp [Entries.keys]⟩
  rw [toList_deepReport]
  exact .bare (Json.denotesMembers_write fun m inside =>
    Json.denotes_of_plain (fun _ _ => trivial) (plain_deepMembers n m inside) 1)

theorem plain_deepReport (n : Nat) : Json.Plain (.object (deepMembers n)) :=
  .object (by simp [deepMembers, Entries.keys]) (plain_deepMembers n)

theorem nesting_deepReport (n : Nat) : Json.nesting (deepReport n).toList = n + 2 := by
  have nests : Json.nesting (Json.write .line 0 (.object (deepMembers n)) ++ []) = _ :=
    Json.nests_of_plain (plain_deepReport n) 0 []
  rw [List.append_nil, ← toList_deepReport] at nests
  simpa [deepMembers, Json.height, Json.heightOfMembers, Json.heightOfItems, height_lair]
    using nests

theorem length_deepReport (n : Nat) : (deepReport n).toList.length = 2 * n + 26 := by
  have name : (Json.writeText "deep").length = 6 := by decide +kernel
  have names : (Json.writeText "issues").length = 8 := by decide +kernel
  simp [toList_deepReport, deepMembers, Json.write, Json.writeMembers, length_lair,
    Json.Layout.gap, Json.Layout.separator, name, names]
  omega

/-- A report is given up for a member that nests too deep, although it lists its issues. -/
theorem read_deepReport {n : Nat} (short : Json.IsShort (deepReport n).toList)
    (deep : stack.levels < n + 2) : ∃ b, read stack (deepReport n) = .error (.tooDeep b) := by
  rw [← nesting_deepReport n] at deep
  have document : Json.Document (Json.Denotes fun _ => True) (deepReport n).toList
      (.object (deepMembers n)) := by
    rw [toList_deepReport]
    exact .bare (Json.denotes_of_plain (fun _ _ => trivial) (plain_deepReport n) 0)
  obtain ⟨b, decoded⟩ := Json.read_deep short document deep
  exact ⟨b, read_tooDeep decoded⟩

theorem isShort_deepReport : Json.IsShort (deepReport 2000).toList := isShort_of_length (by
  rw [length_deepReport]
  decide)

/-- Some opening brackets and nothing else. -/
def brackets (n : Nat) : String := String.ofList (List.replicate n '[')

/-- With two thousand levels of brackets neither a list of issues nor a flaw of the report comes
back, be the text no JSON or be it a report whose issues are listed. -/
theorem escapes_of_depth :
    (Json.IsShort (brackets 2000).toList ∧ read .usual (brackets 2000) = .error (.tooDeep .list)) ∧
      Json.IsShort (deepReport 2000).toList ∧ Presents (deepReport 2000) [] ∧
        ∃ b, read .usual (deepReport 2000) = .error (.tooDeep b) := by
  have toList : (brackets 2000).toList = List.replicate 2000 '[' := String.toList_ofList
  have short : Json.IsShort (brackets 2000).toList := isShort_of_length (by
    rw [toList, List.length_replicate]
    decide)
  have unclosed : Json.read .usual (brackets 2000).toList = .error (.tooDeep .list) := by
    rw [toList]
    exact Json.read_unclosed (by decide)
  exact ⟨⟨short, read_tooDeep unclosed⟩, isShort_deepReport, presents_deepReport 2000,
    read_deepReport isShort_deepReport (by decide)⟩

end CredoAssistant.Report
