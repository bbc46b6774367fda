import CredoAssistant.Proofs.Json.RoundTrip
import CredoAssistant.Proofs.Report.Acceptance

/-!
What another version of the linter may change in a report. The order of members does not matter
anywhere, members that are not known are ignored, and an optional member may be null or missing:
reports that can be read and differ in nothing else list the same issues, or are refused for the
same reason, except that a reason shows the refused values as they stand in its own report. Two runs
are compared step by step: checks of values that are alike pass with the same value or fail with
faults that are alike.
-/
namespace CredoAssistant

open Validation

/-- Values that differ in the order of the members of objects, at any depth. -/
inductive Value.Reordered : Value → Value → Prop
  | same (v : Value) : Reordered v v
  | list {vs ws : List Value} (items : List.Forall₂ Reordered vs ws) :
      Reordered (.list vs) (.list ws)
  | object {ms ns : Members}
      (members : ∀ key, Option.Rel Reordered (Entries.get? key ms) (Entries.get? key ns)) :
      Reordered (.object ms) (.object ns)

theorem Value.isNull_congr {v w : Value} (same : Reordered v w) : v.isNull = w.isNull := by
  cases same <;> rfl

/-- What differs from an object in the order of members is an object. -/
theorem Value.Reordered.members {ms : Members} {w : Value} (same : (Value.object ms).Reordered w) :
    ∃ ns, w = .object ns ∧
      ∀ key, Option.Rel Reordered (Entries.get? key ms) (Entries.get? key ns) := by
  cases same with
  | same =>
    refine ⟨ms, rfl, fun key => ?_⟩
    cases Entries.get? key ms with
    | none => exact .none
    | some v => exact .some (.same v)
  | object members => exact ⟨_, rfl, members⟩

theorem Value.Reordered.items {vs : List Value} {w : Value} (same : (Value.list vs).Reordered w) :
    ∃ ws, w = .list ws ∧ List.Forall₂ Reordered vs ws := by
  cases same with
  | same => exact ⟨vs, rfl, List.forall₂_same.mpr fun v _ => .same v⟩
  | list items => exact ⟨_, rfl, items⟩

/-! ### Outcomes that are alike -/

/-- Faults of the same place and problem. Each echoes a value of its own run: the two differ in the
order of members, or, where a member is missing, they are the objects that lack it. -/
structure Fault.Alike (f g : Fault) : Prop where
  location : f.location = g.location
  problem : f.problem = g.problem
  input : f.problem = .missing ∨ ∃ v w, v.Reordered w ∧ f.input = .of v ∧ g.input = .of w

/-- Checks that pass with the same value, or fail with faults that are alike. -/
inductive Checked.Alike {α : Type} : Checked α → Checked α → Prop
  | passed (a : α) : Alike (.passed a) (.passed a)
  | failed {fs gs : List Fault} (faults : List.Forall₂ Fault.Alike fs gs) :
      Alike (.failed fs) (.failed gs)

/-- Results that are the same, or failures that are related. -/
inductive Outcomes {ε α : Type} (R : ε → ε → Prop) : Except ε α → Except ε α → Prop
  | ok (a : α) : Outcomes R (.ok a) (.ok a)
  | error {e f : ε} (related : R e f) : Outcomes R (.error e) (.error f)

/-- Rejections by the same record for faults that are alike. -/
structure Rejection.Alike (r s : Rejection) : Prop where
  schema : r.schema = s.schema
  faults : List.Forall₂ Fault.Alike r.faults s.faults

namespace Checked.Alike

variable {α β : Type}

theorem map (f : α → β) {a b : Checked α} (alike : a.Alike b) : (f <$> a).Alike (f <$> b) := by
  cases alike with
  | passed x => exact .passed (f x)
  | failed faults => exact .failed faults

theorem seq {f g : Checked (α → β)} {a b : Checked α} (first : f.Alike g) (second : a.Alike b) :
    (f <*> a).Alike (g <*> b) := by
  cases first with
  | passed h =>
    cases second with
    | passed x => exact .passed (h x)
    | failed faults => exact .failed faults
  | failed faults =>
    cases second with
    | passed x => exact .failed faults
    | failed more => exact .failed (List.rel_append faults more)

theorem toExcept (schema : Schema) {a b : Checked α} (alike : a.Alike b) :
    Outcomes Rejection.Alike (a.toExcept schema) (b.toExcept schema) := by
  cases alike with
  | passed x => exact .ok x
  | failed faults => exact .error ⟨rfl, faults⟩

end Checked.Alike

/-- Nothing of a value is told. -/
def Echo.silent (_ : Echo) : String := ""

/-- What is told besides the values is the same. -/
theorem Fault.Alike.message {f g : Fault} (alike : f.Alike g) :
    f.messageWith Echo.silent = g.messageWith Echo.silent := by
  simp only [Fault.messageWith, Echo.silent, alike.location, alike.problem]

theorem Rejection.Alike.message {r s : Rejection} (alike : r.Alike s) :
    r.messageWith Echo.silent = s.messageWith Echo.silent := by
  have texts : r.faults.map (Fault.messageWith Echo.silent) =
      s.faults.map (Fault.messageWith Echo.silent) := by
    have each := alike.faults
    generalize r.faults = fs, s.faults = gs at each ⊢
    induction each with
    | nil => rfl
    | cons first _ ih => rw [List.map_cons, List.map_cons, first.message, ih]
  simp only [Rejection.messageWith, texts, alike.schema, alike.faults.length_eq]

namespace Validation

/-- A rule that looks at no value inside of a list or an object. -/
structure IsShallow {α : Type} (rule : Value → Except Problem α) : Prop where
  list : ∀ vs ws, rule (.list vs) = rule (.list ws)
  object : ∀ ms ns, rule (.object ms) = rule (.object ns)

theorem IsShallow.congr {α : Type} {rule : Value → Except Problem α} (shallow : IsShallow rule)
    {v w : Value} (same : v.Reordered w) : rule v = rule w := by
  cases same with
  | same => rfl
  | list items => exact shallow.list _ _
  | object members => exact shallow.object _ _

theorem isShallow_text : IsShallow text := ⟨fun _ _ => rfl, fun _ _ => rfl⟩

theorem isShallow_exactInteger : IsShallow exactInteger := ⟨fun _ _ => rfl, fun _ _ => rfl⟩

theorem isShallow_positive : IsShallow positive := ⟨fun _ _ => rfl, fun _ _ => rfl⟩

theorem isShallow_nullable_integer : IsShallow (nullable integer) :=
  ⟨fun _ _ => rfl, fun _ _ => rfl⟩

/-- A member that is given: one that is there and not null. -/
def given (field : String) (ms : Members) : Option Value :=
  (Entries.get? field ms).filter fun v => !v.isNull

variable {α : Type} {ms ns : Members} {field : String} {fallback : α}
  {rule : Value → Except Problem α}

theorem ofExcept_alike (shallow : IsShallow rule) {v w : Value} (same : v.Reordered w) :
    (Checked.ofExcept field v (rule v)).Alike (.ofExcept field w (rule w)) := by
  rw [shallow.congr same]
  cases rule w with
  | ok x => exact .passed x
  | error problem => exact .failed (.cons ⟨rfl, rfl, .inr ⟨v, w, same, rfl, rfl⟩⟩ .nil)

theorem required_alike (shallow : IsShallow rule)
    (same : Option.Rel Value.Reordered (Entries.get? field ms) (Entries.get? field ns)) :
    (required ms field rule).Alike (required ns field rule) := by
  unfold required
  generalize Entries.get? field ms = v, Entries.get? field ns = w at same ⊢
  cases same with
  | none => exact .failed (.cons ⟨rfl, rfl, .inl rfl⟩ .nil)
  | some alike => exact ofExcept_alike shallow alike

/-- Where null stands for the default, only a member that is given decides. -/
theorem defaulted_eq_given (absent : rule .null = .ok fallback) :
    defaulted ms field fallback rule =
      match given field ms with
      | none => .passed fallback
      | some v => .ofExcept field v (rule v) := by
  unfold defaulted given
  cases Entries.get? field ms with
  | none => rfl
  | some v =>
    by_cases null : v = .null
    · subst null
      simp only [absent]
      rfl
    · simp only [Value.filter_of_ne_null null]

theorem defaulted_alike (shallow : IsShallow rule) (absent : rule .null = .ok fallback)
    (same : Option.Rel Value.Reordered (given field ms) (given field ns)) :
    (defaulted ms field fallback rule).Alike (defaulted ns field fallback rule) := by
  rw [defaulted_eq_given absent, defaulted_eq_given absent]
  generalize given field ms = v, given field ns = w at same ⊢
  cases same with
  | none => exact .passed fallback
  | some alike => exact ofExcept_alike shallow alike

theorem given_congr
    (same : Option.Rel Value.Reordered (Entries.get? field ms) (Entries.get? field ns)) :
    Option.Rel Value.Reordered (given field ms) (given field ns) := by
  unfold given
  generalize Entries.get? field ms = v, Entries.get? field ns = w at same ⊢
  cases same with
  | none => exact .none
  | some alike =>
    have null := Value.isNull_congr alike
    simp only [Option.filter, null]
    split
    · exact .some alike
    · exact .none

end Validation

namespace Issue

theorem isShallow_textOrEmpty : IsShallow textOrEmpty := ⟨fun _ _ => rfl, fun _ _ => rfl⟩

/-- The members that an issue must have. -/
def requiredMembers : List String := ["category", "check", "line_no", "message", "priority"]

/-- The members that an issue may have. -/
def optionalMembers : List String := ["column", "column_end", "filename", "scope", "trigger"]

/-- Objects that agree on what they say of an issue: on the members that it must have, and on those
that it may have, where null says as much as nothing. -/
structure SameMembers (ms ns : Members) : Prop where
  required : ∀ field ∈ requiredMembers,
    Option.Rel Value.Reordered (Entries.get? field ms) (Entries.get? field ns)
  optional : ∀ field ∈ optionalMembers,
    Option.Rel Value.Reordered (given field ms) (given field ns)

theorem ofMembers_alike {ms ns : Members} (same : SameMembers ms ns) :
    (ofMembers ms).Alike (ofMembers ns) := by
  have must := same.required
  have may := same.optional
  simp only [requiredMembers, optionalMembers, List.forall_mem_cons] at must may
  obtain ⟨category, check, line, message, priority, _⟩ := must
  obtain ⟨column, columnEnd, filename, scope, trigger, _⟩ := may
  exact (required_alike isShallow_text category).map Issue.mk
    |>.seq (required_alike isShallow_text check)
    |>.seq (defaulted_alike isShallow_nullable_integer rfl column)
    |>.seq (defaulted_alike isShallow_nullable_integer rfl columnEnd)
    |>.seq (defaulted_alike isShallow_textOrEmpty rfl filename)
    |>.seq (required_alike isShallow_positive line)
    |>.seq (required_alike isShallow_text message)
    |>.seq (required_alike isShallow_exactInteger priority)
    |>.seq (defaulted_alike isShallow_textOrEmpty rfl scope)
    |>.seq (defaulted_alike isShallow_textOrEmpty rfl trigger)

/-- Items of a report that say the same of an issue, if they are objects at all. -/
inductive SameItem : Value → Value → Prop
  | object {ms ns : Members} (same : SameMembers ms ns) : SameItem (.object ms) (.object ns)
  | other {v w : Value} (same : v.Reordered w) : SameItem v w

theorem sameMembers_of_reordered {ms ns : Members}
    (members : ∀ key, Option.Rel Value.Reordered (Entries.get? key ms) (Entries.get? key ns)) :
    SameMembers ms ns :=
  ⟨fun field _ => members field, fun field _ => given_congr (members field)⟩

/-- What is no object is refused as a whole. -/
theorem notObject_alike {v w : Value} (same : v.Reordered w) :
    Rejection.Alike ⟨.issue, [⟨[], .notObject .issue, .of v⟩]⟩
      ⟨.issue, [⟨[], .notObject .issue, .of w⟩]⟩ :=
  ⟨rfl, .cons ⟨rfl, rfl, .inr ⟨v, w, same, rfl, rfl⟩⟩ .nil⟩

theorem ofValue_alike {v w : Value} (same : SameItem v w) :
    Outcomes Rejection.Alike (ofValue v) (ofValue w) := by
  cases same with
  | object same => exact (ofMembers_alike same).toExcept .issue
  | other same =>
    cases v with
    | object ms =>
      obtain ⟨ns, rfl, members⟩ := same.members
      exact (ofMembers_alike (sameMembers_of_reordered members)).toExcept .issue
    | list vs =>
      obtain ⟨ws, rfl, items⟩ := same.items
      exact .error (notObject_alike (.list items))
    | _ =>
      cases same
      exact .error (notObject_alike (.same _))

end Issue

namespace Report

open Issue (SameItem)

/-- Values under the name of the issues: lists of items that say the same, or no lists. -/
inductive SameIssues : Value → Value → Prop
  | list {vs ws : List Value} (items : List.Forall₂ SameItem vs ws) :
      SameIssues (.list vs) (.list ws)
  | other {v w : Value} (same : v.Reordered w) : SameIssues v w

/-- Reports whose values differ in nothing but members of the report other than its issues, members
of issues outside of the ten that are known, the order of members, and optional members of issues
that are null in one report and missing in the other. -/
inductive SameReport : Value → Value → Prop
  | object {ms ns : Members}
      (issues : Option.Rel SameIssues (Entries.get? "issues" ms) (Entries.get? "issues" ns)) :
      SameReport (.object ms) (.object ns)
  | other {v w : Value} (same : v.Reordered w) : SameReport v w

/-- Flaws of the same kind; those of an issue are about the same one and alike. -/
inductive SameFlaw : ReportFlaw → ReportFlaw → Prop
  | same (flaw : ReportFlaw) : SameFlaw flaw flaw
  | malformed (index : Nat) {r s : Rejection} (alike : r.Alike s) :
      SameFlaw (.malformedIssue index r) (.malformedIssue index s)

theorem readIssues_alike {vs ws : List Value} (items : List.Forall₂ SameItem vs ws) (n : Nat) :
    Outcomes SameFlaw (readIssues n vs) (readIssues n ws) := by
  induction items generalizing n with
  | nil => exact .ok []
  | @cons v w vs ws first _ ih =>
    have head := Issue.ofValue_alike first
    have tail := ih (n + 1)
    unfold readIssues
    generalize Issue.ofValue v = a, Issue.ofValue w = b at head ⊢
    generalize readIssues (n + 1) vs = as, readIssues (n + 1) ws = bs at tail ⊢
    cases head with
    | error alike => exact .error (.malformed n alike)
    | ok issue =>
      cases tail with
      | error same => exact .error same
      | ok issues => exact .ok (issue :: issues)

theorem sameIssues_of_reordered {ms ns : Members}
    (members : ∀ key, Option.Rel Value.Reordered (Entries.get? key ms) (Entries.get? key ns)) :
    Option.Rel SameIssues (Entries.get? "issues" ms) (Entries.get? "issues" ns) := by
  have alike := members "issues"
  generalize Entries.get? "issues" ms = v, Entries.get? "issues" ns = w at alike ⊢
  cases alike with
  | none => exact .none
  | some alike => exact .some (.other alike)

theorem ofValue_object_alike {ms ns : Members}
    (issues : Option.Rel SameIssues (Entries.get? "issues" ms) (Entries.get? "issues" ns)) :
    Outcomes SameFlaw (ofValue (.object ms)) (ofValue (.object ns)) := by
  rw [ofValue, ofValue]
  generalize Entries.get? "issues" ms = v, Entries.get? "issues" ns = w at issues ⊢
  cases issues with
  | none => exact .error (.same _)
  | some same =>
    cases same with
    | list items => exact readIssues_alike items 0
    | other same =>
      rename_i v w
      cases v with
      | list vs =>
        obtain ⟨ws, rfl, items⟩ := same.items
        exact readIssues_alike (items.imp fun _ _ => .other) 0
      | object ms =>
        obtain ⟨ns, rfl, members⟩ := same.members
        exact .error (.same _)
      | _ =>
        cases same
        exact .error (.same _)

theorem ofValue_alike {v w : Value} (same : SameReport v w) :
    Outcomes SameFlaw (ofValue v) (ofValue w) := by
  cases same with
  | object issues => exact ofValue_object_alike issues
  | other same =>
    cases v with
    | object ms =>
      obtain ⟨ns, rfl, members⟩ := same.members
      exact ofValue_object_alike (sameIssues_of_reordered members)
    | list vs =>
      obtain ⟨ws, rfl, items⟩ := same.items
      exact .error (.same _)
    | _ =>
      cases same
      exact .error (.same _)

/-- Besides the values, what is wrong with a value is told in the same words whatever text it was
read from. -/
theorem message_of_ofValue {v : Value} {flaw other : ReportFlaw} (failed : ofValue v = .error flaw)
    (same : SameFlaw flaw other) (a b : String) :
    ReportError.messageWith Echo.silent ⟨flaw, a⟩ =
      ReportError.messageWith Echo.silent ⟨other, b⟩ := by
  cases same with
  | malformed index alike => simp only [ReportError.messageWith, alike.message]
  | same =>
    rcases ofValue_eq_error_iff.mp failed with ⟨rfl, _⟩ | ⟨_, _, ⟨rfl, _⟩ | ⟨_, _, item⟩⟩
    · rfl
    · rfl
    · obtain ⟨_, _, _, _, _, _, _, rfl⟩ := readIssues_eq_error_iff.mp item
      rfl

variable {stack : Stack}

/-- Reports that are read and differ in nothing that matters list the same issues, or have the same
flaw, told in the same words besides the values that it is about. -/
theorem reads_alike {a b : String} {v w : Value} (first : Json.read stack a.toList = .ok v)
    (second : Json.read stack b.toList = .ok w) (same : SameReport v w) :
    (∃ issues, read stack a = .ok issues ∧ read stack b = .ok issues) ∨
      ∃ flaw other, read stack a = .error (.flawed ⟨flaw, a⟩) ∧
        read stack b = .error (.flawed ⟨other, b⟩) ∧ SameFlaw flaw other ∧
          ReportError.messageWith Echo.silent ⟨flaw, a⟩ =
            ReportError.messageWith Echo.silent ⟨other, b⟩ := by
  have alike := ofValue_alike same
  have told (flaw other : ReportFlaw) (failed : ofValue v = .error flaw)
      (related : SameFlaw flaw other) := message_of_ofValue failed related a b
  simp only [read, first, second]
  generalize ofValue v = r, ofValue w = s at alike told ⊢
  cases alike with
  | ok issues => exact .inl ⟨issues, rfl, rfl⟩
  | @error flaw other related =>
    exact .inr ⟨flaw, other, rfl, rfl, related, told flaw other rfl related⟩

/-- A report of two items, the second of which has an object for its message. -/
def older : Value :=
  .object
    [("issues", .list
      [.object
        [("category", .text "design"), ("check", .text "A"), ("column", .null),
          ("filename", .text "a.ex"), ("line_no", .int 3), ("message", .text "m"),
          ("priority", .int 1), ("scope", .null)],
        .object
        [("category", .text "design"), ("check", .text "B"), ("line_no", .int 4),
          ("message", .object [("short", .text "s"), ("long", .null)])]])]

/-- The same report with members in another order, with and without null, and with new members. -/
def newer : Value :=
  .object
    [("version", .int 2),
      ("issues", .list
        [.object
          [("explanation", .list [.null]), ("priority", .int 1), ("message", .text "m"),
            ("trigger", .null), ("line_no", .int 3), ("filename", .text "a.ex"),
            ("check", .text "A"), ("category", .text "design")],
          .object
          [("message", .object [("long", .null), ("short", .text "s")]), ("line_no", .int 4),
            ("column_end", .null), ("check", .text "B"), ("category", .text "design")]])]

theorem sameReport_newer : SameReport older newer := by
  have message : Value.Reordered (.object [("short", .text "s"), ("long", .null)])
      (.object [("long", .null), ("short", .text "s")]) := by
    refine .object fun key => ?_
    by_cases short : key = "short"
    · subst short
      exact .some (.same _)
    · by_cases long : key = "long"
      · subst long
        exact .some (.same _)
      · simp [Entries.get?, Ne.symm short, Ne.symm long]
  refine .object (.some (.list (.cons (.object ⟨?_, ?_⟩) (.cons (.object ⟨?_, ?_⟩) .nil))))
  · simp +decide [Issue.requiredMembers, Entries.get?, Value.Reordered.same]
  · simp only [Issue.optionalMembers, List.forall_mem_cons]
    exact ⟨.none, .none, .some (.same _), .none, .none, List.forall_mem_nil _⟩
  · simp +decide [Issue.requiredMembers, Entries.get?, Value.Reordered.same, message]
  · simp only [Issue.optionalMembers, List.forall_mem_cons]
    exact ⟨.none, .none, .none, .none, .none, List.forall_mem_nil _⟩

/-- What is written for the two is read as them. -/
theorem read_older (stack : Stack) (layout : Json.Layout) (room : 4 ≤ stack.levels) :
    Json.read stack (Json.render layout older).toList = .ok older ∧
      Json.read stack (Json.render layout newer).toList = .ok newer := by
  have first : Json.height older ≤ 4 := by decide +kernel
  have second : Json.height newer ≤ 4 := by decide +kernel
  exact
    ⟨Json.read_render_of_plain layout (by simp +decide [older]) (first.trans room),
    Json.read_render_of_plain layout (by simp +decide [newer]) (second.trans room)⟩

theorem reads_alike_newer :
    Json.read .usual (Json.render .line older).toList = .ok older ∧
      Json.read .usual (Json.render .indented newer).toList = .ok newer ∧ SameReport older newer ∧
      ((∃ issues, read .usual (Json.render .line older) = .ok issues ∧
          read .usual (Json.render .indented newer) = .ok issues) ∨
        ∃ flaw other,
          read .usual (Json.render .line older) =
            .error (.flawed ⟨flaw, Json.render .line older⟩) ∧
          read .usual (Json.render .indented newer) =
            .error (.flawed ⟨other, Json.render .indented newer⟩) ∧ SameFlaw flaw other ∧
          ReportError.messageWith Echo.silent ⟨flaw, Json.render .line older⟩ =
            ReportError.messageWith Echo.silent ⟨other, Json.render .indented newer⟩) := by
  have first := (read_older .usual .line (by decide)).1
  have second := (read_older .usual .indented (by decide)).2
  exact ⟨first, second, sameReport_newer, reads_alike first second sameReport_newer⟩

/-- An issue without a priority. -/
def unranked : Members :=
  [("category", .text "a"), ("check", .text "b"), ("line_no", .int 1), ("message", .text "c")]

/-- A report of one issue with such members. -/
def listing (ms : Members) : Value := .object [("issues", .list [.object ms])]

/-- A report of one item that is no issue is read, and refused for this item. -/
theorem read_listing (ms : Members) {r : Rejection} (plain : Json.Plain (.object ms))
    (shallow : Json.height (.object ms) = 1) (refused : Issue.ofValue (.object ms) = .error r) :
    read .usual (Json.render .line (listing ms)) =
      .error (.flawed ⟨.malformedIssue 0 r, Json.render .line (listing ms)⟩) := by
  have whole : Json.Plain (listing ms) :=
    .object (by simp [Entries.keys]) (by simpa using plain)
  have room : Json.height (listing ms) ≤ Stack.usual.levels := by
    simp only [listing, Json.height, Json.heightOfMembers, Json.heightOfItems] at shallow ⊢
    rw [shallow]
    decide
  rw [read, Json.read_render_of_plain .line whole room]
  simp only [listing, ofValue, Entries.get?, if_true, readIssues, refused]

/-- The reason for refusing an issue that has no priority quotes the issue. -/
theorem message_unranked {e f : Echo} {a b : String}
    (same : ReportError.message ⟨.malformedIssue 0 ⟨.issue, [⟨["priority"], .missing, e⟩]⟩, a⟩ =
      ReportError.message ⟨.malformedIssue 0 ⟨.issue, [⟨["priority"], .missing, f⟩]⟩, b⟩) :
    e.message = f.message := by
  simpa [ReportError.message, ReportError.messageWith, Rejection.messageWith, Fault.messageWith,
    toString, String.append_assoc] using same

theorem sameReport_extended :
    SameReport (listing unranked) (listing (unranked ++ [("x", .int 1)])) := by
  refine .object (.some (.list (.cons (.object ⟨?_, ?_⟩) .nil)))
  · simp +decide [unranked, Issue.requiredMembers, Entries.get?, Value.Reordered.same]
  · simp only [Issue.optionalMembers, List.forall_mem_cons]
    exact ⟨.none, .none, .none, .none, .none, List.forall_mem_nil _⟩

/-- A member more of an issue shows in the reason that the issue is refused for; and with a member
more that nests too deep, a report is not read at all. -/
theorem differs_by_members :
    (SameReport (listing unranked) (listing (unranked ++ [("x", .int 1)])) ∧
      ∃ e f, read .usual (Json.render .line (listing unranked)) = .error (.flawed e) ∧
        read .usual (Json.render .line (listing (unranked ++ [("x", .int 1)]))) =
          .error (.flawed f) ∧ e.message ≠ f.message) ∧
    SameReport (.object [("issues", .list [])]) (.object (deepMembers 2000)) ∧
      read .usual (Json.render .line (.object [("issues", .list [])])) = .ok [] ∧
        ∃ b, read .usual (Json.render .line (.object (deepMembers 2000))) =
          .error (.tooDeep b) := by
  have first := read_listing unranked (by simp +decide [unranked]) rfl rfl
  have second := read_listing (unranked ++ [("x", .int 1)]) (by simp +decide [unranked]) rfl rfl
  refine ⟨⟨sameReport_extended, _, _, first, second, fun same => ?_⟩, ?_, ?_, ?_⟩
  · exact absurd (message_unranked same) (by decide +kernel)
  · exact .object (.some (.list .nil))
  · have plain : Json.Plain (.object [("issues", .list [])]) := by simp +decide
    rw [read, Json.read_render_of_plain .line plain (by decide)]
    rfl
  · exact read_deepReport isShort_deepReport (by decide)

end Report

end CredoAssistant
