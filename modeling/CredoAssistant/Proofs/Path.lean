import CredoAssistant.Path
import Mathlib.Data.List.Basic
import Mathlib.Data.List.Induction

/-!
Where a path leads. A text is the parts between its slashes, and the parts lead from the root to a
place: empty parts and points change nothing, a parent step goes back by one name and stays at the
root. Without links, resolving a path comes to that place, and the written place comes to itself.
-/
namespace CredoAssistant.Path

/-! ### Null characters -/

theorem hasNull_eq_false_iff {p : Path} :
    p.hasNull = false ↔ ∀ part ∈ p.parts, '\x00' ∉ part.toList := by
  simp [hasNull]

/-- The parts of a text are made of its characters. -/
theorem mem_of_mem_split {q : String} {part cs : List Char} (inside : q ∈ split.go part cs)
    {c : Char} (here : c ∈ q.toList) : c ∈ part ∨ c ∈ cs := by
  induction cs generalizing part with
  | nil =>
    rw [List.mem_singleton.mp inside, String.toList_ofList, List.mem_reverse] at here
    exact .inl here
  | cons d rest ih =>
    unfold split.go at inside
    split at inside
    · rcases List.mem_cons.mp inside with rfl | later
      · rw [String.toList_ofList, List.mem_reverse] at here
        exact .inl here
      · have behind : c ∈ rest := (ih later).resolve_left List.not_mem_nil
        exact .inr (List.mem_cons_of_mem d behind)
    · rcases ih inside with front | behind
      · rcases List.mem_cons.mp front with rfl | front
        · exact .inr List.mem_cons_self
        · exact .inl front
      · exact .inr (List.mem_cons_of_mem d behind)

theorem null_notMem_of_split {s part : String} (clean : '\x00' ∉ s.toList)
    (inside : part ∈ split s) : '\x00' ∉ part.toList := fun here =>
  clean ((mem_of_mem_split inside here).resolve_left List.not_mem_nil)

theorem hasNull_ofText {s : String} (clean : '\x00' ∉ s.toList) : (ofText s).hasNull = false := by
  rw [hasNull_eq_false_iff]
  exact fun part inside => null_notMem_of_split clean (List.mem_of_mem_filter inside)

theorem mem_of_mem_intercalate {α : Type} {sep : List α} {parts : List (List α)} {a : α}
    (inside : a ∈ sep.intercalate parts) : a ∈ sep ∨ ∃ part ∈ parts, a ∈ part := by
  induction parts with
  | nil => cases inside
  | cons part rest ih =>
    cases rest with
    | nil =>
      rw [List.intercalate_singleton] at inside
      exact .inr ⟨part, List.mem_cons_self, inside⟩
    | cons next rest =>
      rw [List.intercalate_cons_cons, List.append_assoc, List.mem_append, List.mem_append] at inside
      rcases inside with here | between | later
      · exact .inr ⟨part, List.mem_cons_self, here⟩
      · exact .inl between
      · rcases ih later with between | ⟨found, behind, here⟩
        · exact .inl between
        · exact .inr ⟨found, List.mem_cons_of_mem part behind, here⟩

theorem null_notMem_intercalate {parts : List String}
    (clean : ∀ part ∈ parts, '\x00' ∉ part.toList) : '\x00' ∉ ("/".intercalate parts).toList := by
  rw [String.toList_intercalate]
  intro inside
  rcases mem_of_mem_intercalate inside with between | ⟨cs, listed, here⟩
  · exact absurd between (by decide)
  · obtain ⟨part, known, rfl⟩ := List.mem_map.mp listed
    exact clean part known here

theorem null_notMem_text {p : Path} (clean : p.hasNull = false) : '\x00' ∉ p.text.toList := by
  have body := null_notMem_intercalate (hasNull_eq_false_iff.mp clean)
  unfold text
  dsimp only
  split
  · split
    · decide
    · exact body
  · simpa using body
  · simpa using body

theorem hasNull_join {p q : Path} (front : p.hasNull = false) (behind : q.hasNull = false) :
    (p.join q).hasNull = false := by
  unfold join
  split
  · exact behind
  · rw [hasNull_eq_false_iff] at front behind ⊢
    intro part inside
    exact (List.mem_append.mp inside).elim (front part) (behind part)

/-! ### Parts of a text -/

/-- The parts of a text between its slashes: no part holds one, and with slashes between them they
are the text again. -/
structure Parts (s : String) (parts : List String) : Prop where
  some : parts ≠ []
  plain : ∀ part ∈ parts, '/' ∉ part.toList
  whole : "/".intercalate parts = s

theorem split_go_append (front cs rest : List Char) :
    split.go front (cs ++ '/' :: rest) = split.go front cs ++ split.go [] rest := by
  induction cs generalizing front with
  | nil => simp [split.go]
  | cons c cs ih =>
    by_cases slash : c = '/'
    · simp [split.go, slash, ih]
    · simp [split.go, slash, ih]

theorem split_append (s t : String) : split (s ++ "/" ++ t) = split s ++ split t := by
  have slash : "/".toList = ['/'] := rfl
  rw [split, String.toList_append, String.toList_append, slash, List.append_assoc]
  exact split_go_append [] s.toList t.toList

theorem split_go_of_plain {cs : List Char} (plain : '/' ∉ cs) (front : List Char) :
    split.go front cs = [String.ofList (front.reverse ++ cs)] := by
  induction cs generalizing front with
  | nil => simp [split.go]
  | cons c cs ih =>
    rw [List.mem_cons, not_or] at plain
    rw [split.go, if_neg (Ne.symm plain.1), ih plain.2]
    simp

theorem split_of_plain {part : String} (plain : '/' ∉ part.toList) : split part = [part] := by
  rw [split, split_go_of_plain plain]
  simp

/-- Parts are found again in the text that they make. -/
theorem split_intercalate {parts : List String} (some : parts ≠ [])
    (plain : ∀ part ∈ parts, '/' ∉ part.toList) : split ("/".intercalate parts) = parts := by
  induction parts with
  | nil => exact absurd rfl some
  | cons part rest ih =>
    have first := split_of_plain (plain part List.mem_cons_self)
    cases rest with
    | nil => rw [String.intercalate_singleton, first]
    | cons next rest =>
      have behind := ih (List.cons_ne_nil next rest)
        fun q inside => plain q (List.mem_cons_of_mem part inside)
      rw [String.intercalate_cons_cons, split_append, first, behind]
      rfl

theorem split_go_ne_nil (front cs : List Char) : split.go front cs ≠ [] := by
  induction cs generalizing front with
  | nil => simp [split.go]
  | cons c cs ih =>
    unfold split.go
    split
    · exact List.cons_ne_nil _ _
    · exact ih _

theorem toList_intercalate_split (front cs : List Char) :
    ("/".intercalate (split.go front cs)).toList = front.reverse ++ cs := by
  induction cs generalizing front with
  | nil => simp [split.go]
  | cons c cs ih =>
    unfold split.go
    split
    · rename_i slash
      rw [String.intercalate_cons_of_ne_nil (split_go_ne_nil [] cs), String.toList_append,
        String.toList_append, ih, slash]
      simp
    · rw [ih]
      simp

theorem slash_notMem_of_split {front cs : List Char} (plain : '/' ∉ front) {part : String}
    (inside : part ∈ split.go front cs) : '/' ∉ part.toList := by
  induction cs generalizing front with
  | nil =>
    rw [split.go, List.mem_singleton] at inside
    simpa [inside] using plain
  | cons c cs ih =>
    unfold split.go at inside
    split at inside
    · rcases List.mem_cons.mp inside with rfl | later
      · simpa using plain
      · exact ih List.not_mem_nil later
    · rename_i other
      exact ih (by simpa [plain] using Ne.symm other) inside

/-- Every text has parts, and it has no others than those it is split into. -/
theorem parts_iff {s : String} {parts : List String} : Parts s parts ↔ parts = split s := by
  constructor
  · rintro ⟨some, plain, rfl⟩
    exact (split_intercalate some plain).symm
  · rintro rfl
    refine ⟨split_go_ne_nil [] _, fun part inside => ?_, ?_⟩
    · exact slash_notMem_of_split List.not_mem_nil inside
    · exact String.toList_injective (toList_intercalate_split [] s.toList)

/-! ### Places -/

/-- The place that some parts lead to from the root. -/
inductive Leads : List String → List String → Prop
  | root : Leads [] []
  | stay {parts place : List String} {part : String} (idle : part = "" ∨ part = ".")
      (before : Leads parts place) : Leads (parts ++ [part]) place
  | up {parts place : List String} (before : Leads parts place) :
      Leads (parts ++ [".."]) place.dropLast
  | down {parts place : List String} {name : String} (proper : name ∉ ["", ".", ".."])
      (before : Leads parts place) : Leads (parts ++ [name]) (place ++ [name])

/-- The parts that a path keeps. -/
def kept (parts : List String) : List String := parts.filter fun part => part != "" && part != "."

theorem resolve_concat (parts : List String) (part : String) :
    resolve [] (parts ++ [part]) =
      if part = ".." then (resolve [] parts).dropLast else resolve [] parts ++ [part] := by
  rw [resolve, List.foldl_append]
  rfl

theorem kept_concat_of_idle {part : String} (idle : part = "" ∨ part = ".") (parts : List String) :
    kept (parts ++ [part]) = kept parts := by
  rw [kept, List.filter_append]
  rcases idle with rfl | rfl
  · exact List.append_nil _
  · exact List.append_nil _

theorem kept_concat {part : String} (stays : ¬ (part = "" ∨ part = ".")) (parts : List String) :
    kept (parts ++ [part]) = kept parts ++ [part] := by
  rw [not_or] at stays
  have passes : [part].filter (fun part => part != "" && part != ".") = [part] := by
    simp [stays]
  rw [kept, List.filter_append, passes]
  rfl

theorem leads_resolve (parts : List String) : Leads parts (resolve [] (kept parts)) := by
  induction parts using List.reverseRecOn with
  | nil => exact .root
  | append_singleton parts part ih =>
    by_cases idle : part = "" ∨ part = "."
    · rw [kept_concat_of_idle idle]
      exact .stay idle ih
    · rw [kept_concat idle, resolve_concat]
      split
      · rename_i parent
        subst parent
        exact .up ih
      · rename_i name
        rw [not_or] at idle
        exact .down (by simp [idle, name]) ih

/-- Parts lead to one place. -/
theorem leads_iff {parts place : List String} :
    Leads parts place ↔ place = resolve [] (kept parts) := by
  constructor
  · intro leads
    induction leads with
    | root => rfl
    | stay idle before ih => rw [kept_concat_of_idle idle, ih]
    | up before ih => rw [kept_concat (by decide), resolve_concat, if_pos rfl, ih]
    | down proper before ih =>
      simp only [List.mem_cons, List.not_mem_nil, or_false, not_or] at proper
      rw [kept_concat (by simp [proper]), resolve_concat, if_neg proper.2.2, ih]
  · rintro rfl
    exact leads_resolve parts

/-- The names of a place are among the parts that lead there, and no steps. -/
theorem Leads.proper {parts place : List String} (leads : Leads parts place) {name : String}
    (inside : name ∈ place) : name ∈ parts ∧ name ∉ ["", ".", ".."] := by
  induction leads with
  | root => cases inside
  | stay idle before ih => exact ⟨List.mem_append_left _ (ih inside).1, (ih inside).2⟩
  | up before ih =>
    have known := ih ((List.dropLast_sublist _).mem inside)
    exact ⟨List.mem_append_left _ known.1, known.2⟩
  | down proper before ih =>
    rcases List.mem_append.mp inside with front | last
    · exact ⟨List.mem_append_left _ (ih front).1, (ih front).2⟩
    · rw [List.mem_singleton.mp last]
      exact ⟨by simp, proper⟩

/-- Names lead to themselves. -/
theorem leads_names {place : List String} (proper : ∀ name ∈ place, name ∉ ["", ".", ".."]) :
    Leads place place := by
  induction place using List.reverseRecOn with
  | nil => exact .root
  | append_singleton place name ih =>
    have before := ih fun q inside => proper q (List.mem_append_left _ inside)
    exact .down (proper name (by simp)) before

theorem leads_idle {part : String} (idle : part = "" ∨ part = ".") : Leads [part] [] := by
  rw [← List.nil_append [part]]
  exact .stay idle .root

/-- A part that changes nothing may stand in front. -/
theorem Leads.cons_idle {parts place : List String} {part : String} (idle : part = "" ∨ part = ".")
    (leads : Leads parts place) : Leads (part :: parts) place := by
  induction leads with
  | root => exact leads_idle idle
  | stay still before ih =>
    rw [← List.cons_append]
    exact .stay still ih
  | up before ih =>
    rw [← List.cons_append]
    exact .up ih
  | down proper before ih =>
    rw [← List.cons_append]
    exact .down proper ih

/-! ### Texts of places -/

/-- What stands in a place: a part of a text that is no step. -/
structure IsName (part : String) : Prop where
  plain : '/' ∉ part.toList
  proper : part ∉ ["", ".", ".."]

theorem Leads.names {s : String} {parts place : List String} (whole : Parts s parts)
    (leads : Leads parts place) : ∀ name ∈ place, IsName name := fun name inside =>
  ⟨whole.plain name (leads.proper inside).1, (leads.proper inside).2⟩

/-- A place as an absolute path. -/
def absolute (place : List String) : String := "/" ++ "/".intercalate place

theorem null_notMem_absolute {place : List String}
    (clean : ∀ name ∈ place, '\x00' ∉ name.toList) : '\x00' ∉ (absolute place).toList := by
  rw [absolute, String.toList_append, List.mem_append, not_or]
  exact ⟨by decide, null_notMem_intercalate clean⟩

theorem split_absolute {place : List String} (names : ∀ name ∈ place, IsName name) :
    split (absolute place) = "" :: if place = [] then [""] else place := by
  have front : absolute place = "" ++ "/" ++ "/".intercalate place := by
    rw [String.empty_append]
    rfl
  rw [front, split_append]
  split
  · rename_i none
    subst none
    rfl
  · rename_i some
    rw [split_intercalate some fun name inside => (names name inside).plain]
    rfl

/-- The text of a place leads there. -/
theorem leads_absolute {place : List String} (names : ∀ name ∈ place, IsName name) :
    Leads (split (absolute place)) place := by
  rw [split_absolute names]
  refine .cons_idle (.inl rfl) ?_
  split
  · rename_i none
    subst none
    exact leads_idle (.inl rfl)
  · exact leads_names fun name inside => (names name inside).proper

/-- Different places have different texts. -/
theorem absolute_injective {place other : List String} (names : ∀ name ∈ place, IsName name)
    (names' : ∀ name ∈ other, IsName name) (same : absolute place = absolute other) :
    place = other := by
  have here := leads_iff.mp (leads_absolute names)
  have there := leads_iff.mp (leads_absolute names')
  rw [here, same, ← there]

/-! ### Paths seen from a directory -/

/-- The text of a path seen from a directory; one that starts with a slash stands for itself. -/
def seenFrom (root path : String) : String :=
  if path.toList.head? = some '/' then path else root ++ "/" ++ path

theorem head?_seenFrom {root : String} (absolute : root.toList.head? = some '/') (path : String) :
    (seenFrom root path).toList.head? = some '/' := by
  unfold seenFrom
  split
  · assumption
  · rw [String.toList_append, String.toList_append, List.append_assoc, List.head?_append, absolute]
    rfl

theorem null_notMem_seenFrom {root path : String} (front : '\x00' ∉ root.toList)
    (behind : '\x00' ∉ path.toList) : '\x00' ∉ (seenFrom root path).toList := by
  unfold seenFrom
  split
  · exact behind
  · simp [front, behind]

theorem isAbsolute_ofText_iff {s : String} :
    (ofText s).isAbsolute = true ↔ s.toList.head? = some '/' := by
  rw [isAbsolute, ofText]
  dsimp only
  generalize s.toList = cs
  unfold anchorOf
  split
  · simp
  · simp
  · simp
  · rename_i other
    cases cs with
    | nil => simp
    | cons c rest =>
      have plain : c ≠ '/' := fun slash => other rest (by rw [slash])
      simpa using plain

theorem parts_join (root path : String) :
    ((ofText root).join (ofText path)).parts = kept (split (seenFrom root path)) := by
  unfold join seenFrom
  by_cases absolute : path.toList.head? = some '/'
  · rw [if_pos absolute, if_pos (isAbsolute_ofText_iff.mpr absolute)]
    rfl
  · rw [if_neg absolute, if_neg (mt isAbsolute_ofText_iff.mp absolute), split_append, kept,
      List.filter_append]
    rfl

/-! ### Files in a directory -/

theorem exists_intercalate_append (parts : List String) (name : String) :
    ∃ front, "/".intercalate (parts ++ [name]) = front ++ name := by
  induction parts with
  | nil => exact ⟨"", by simp⟩
  | cons part rest ih =>
    obtain ⟨front, behind⟩ := ih
    refine ⟨part ++ "/" ++ front, ?_⟩
    rw [List.cons_append, String.intercalate_cons_of_ne_nil (by simp), behind]
    simp only [String.append_assoc]

/-- The path of a file in a directory ends in the name of the file. -/
theorem exists_text_append (root : Path) {file : Path} {name : String}
    (relative : file.isAbsolute = false) (single : file.parts = [name]) :
    ∃ front, (root.join file).text = front ++ name := by
  obtain ⟨front, ends⟩ := exists_intercalate_append root.parts name
  unfold join text
  rw [if_neg (by simp [relative])]
  dsimp only
  rw [single, ends]
  split
  · rw [if_neg (by simp)]
    exact ⟨front, rfl⟩
  · exact ⟨"/" ++ front, by rw [String.append_assoc]⟩
  · exact ⟨"//" ++ front, by rw [String.append_assoc]⟩

end CredoAssistant.Path
