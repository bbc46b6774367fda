import CredoAssistant.Proofs.Session.Alike
import CredoAssistant.Proofs.Session.Publication

/-!
Documents do not interfere. All documents share a publisher, its sets and its store, the host and
the open views; still a session replies to the steps about one document, and leaves that document,
as if the steps about the others had never been taken.
-/
namespace CredoAssistant.Session

/-- The steps that are left when those about documents other than that of `uri` are dropped. -/
def only (setup : Setup) (uri : String) : Bindings → List Step → List Step
  | _, [] => []
  | b, a :: rest =>
    if b.concern setup a = some uri ∨ b.concern setup a = none then
      a :: only setup uri (b.after setup a) rest
    else only setup uri (b.after setup a) rest

/-- The steps about the document of `uri` in turn, each with its reply. -/
def observed (setup : Setup) (uri : String) : Bindings → Session → List Step → List (Step × Reply)
  | _, _, [] => []
  | b, s, a :: rest =>
    let (next, reply) := s.step setup a
    if b.concern setup a = some uri then
      (a, reply) :: observed setup uri (b.after setup a) next rest
    else observed setup uri (b.after setup a) next rest

/-- All steps in turn, each with its reply. -/
def exchanges (setup : Setup) (s : Session) (steps : List Step) : List (Step × Reply) :=
  steps.zip ((run setup s steps).map Prod.fst)

/-- The ends of the inspections of some names, each with its launch. -/
def finishing (ends : List (String × Launch)) : List Step := ends.map fun f => .finish f.1 f.2

/-- The inspection of a name waits for its launch. -/
def IsWaiting (s : Session) (name : String) : Prop := ∃ d, s.progress? name = some (.waiting d)

variable {setup : Setup} {uri : String} {b c : Bindings} {s t : Session} {name : String}

/-! ### Whole sessions -/

/-- Alike sessions stay alike when one leaves out the steps about other documents, and they reply
alike to the steps about the document. -/
theorem Alike.run (setup : Setup) (alike : Alike uri b c s t) (bound : Bound b s)
    (bound' : Bound c t)
    (steps : List Step) :
    observed setup uri c t (only setup uri b steps) = observed setup uri b s steps ∧
      Publisher.Agrees uri (Session.after setup s steps).publisher
        (Session.after setup t (only setup uri b steps)).publisher := by
  induction steps generalizing b c s t with
  | nil => exact ⟨rfl, alike.publisher⟩
  | cons a rest ih =>
    have next := bound.step setup a
    have next' := bound'.step setup a
    cases about : b.concern setup a with
    | none =>
      have about' := (alike.concern (.inr about)).trans about
      simpa [only, observed, about, about'] using ih (alike.aside bound bound' about) next next'
    | some other =>
      by_cases on : other = uri
      · subst on
        have about' := (alike.concern (.inl about)).trans about
        obtain ⟨reply, alike⟩ := alike.both bound bound' about
        simpa [only, observed, about, about', reply] using ih alike next next'
      · simpa [only, observed, about, on] using ih (alike.skip bound about on) next bound'

/-! ### Orders of ending -/

variable {ends others : List (String × Launch)}

theorem Bound.named_of_isWaiting (bound : Bound b s) (waiting : IsWaiting s name) :
    ∃ uri, b.runs name = some uri := by
  obtain ⟨d, waiting⟩ := waiting
  exact ⟨d.uri, bound.waiting name d waiting⟩

theorem only_finishing (named : ∀ f ∈ ends, ∃ uri, b.runs f.1 = some uri) :
    only setup uri b (finishing ends) = finishing (ends.filter fun f => b.runs f.1 = some uri) := by
  induction ends with
  | nil => rfl
  | cons f rest ih =>
    have tail := ih fun g member => named g (List.mem_cons_of_mem f member)
    obtain ⟨other, about⟩ := named f List.mem_cons_self
    by_cases on : other = uri
    · simpa [finishing, only, Bindings.concern, Bindings.after, about, on] using tail
    · simpa [finishing, only, Bindings.concern, Bindings.after, about, on] using tail

theorem observed_cons (setup : Setup) (uri : String) (b : Bindings) (s : Session) (a : Step)
    (rest : List Step) :
    observed setup uri b s (a :: rest) =
      (if b.concern setup a = some uri then [(a, (s.step setup a).2)] else []) ++
        observed setup uri (b.after setup a) (s.step setup a).1 rest := by
  simp only [observed]
  split <;> rfl

/-- The end of each named inspection is seen from some document. -/
theorem mem_exchanges_finishing (named : ∀ f ∈ ends, ∃ uri, b.runs f.1 = some uri)
    {exchange : Step × Reply} :
    exchange ∈ exchanges setup s (finishing ends) ↔
      ∃ uri, exchange ∈ observed setup uri b s (finishing ends) := by
  induction ends generalizing s with
  | nil => simp [finishing, exchanges, observed]
  | cons f rest ih =>
    have tail :
        exchange ∈ exchanges setup (s.step setup (.finish f.1 f.2)).1 (finishing rest) ↔ _ :=
      ih fun g member => named g (List.mem_cons_of_mem f member)
    obtain ⟨uri, about⟩ := named f List.mem_cons_self
    have head : exchange ∈ exchanges setup s (finishing (f :: rest)) ↔
        exchange = (.finish f.1 f.2, (s.step setup (.finish f.1 f.2)).2) ∨
          exchange ∈ exchanges setup (s.step setup (.finish f.1 f.2)).1 (finishing rest) :=
      List.mem_cons
    have seen : ∀ uri, exchange ∈ observed setup uri b s (finishing (f :: rest)) ↔
        exchange ∈ (if b.runs f.1 = some uri then
          [(Step.finish f.1 f.2, (s.step setup (.finish f.1 f.2)).2)] else []) ∨
        exchange ∈ observed setup uri b (s.step setup (.finish f.1 f.2)).1 (finishing rest) := by
      intro uri
      rw [← List.mem_append]
      exact iff_of_eq (congrArg _ (observed_cons ..))
    rw [head, tail]
    simp only [seen, about]
    constructor
    · rintro (rfl | ⟨other, seen⟩)
      · exact ⟨uri, .inl (by simp)⟩
      · exact ⟨other, .inr seen⟩
    · rintro ⟨other, first | seen⟩
      · split at first
        · exact .inl (List.mem_singleton.mp first)
        · cases first
      · exact .inr ⟨other, seen⟩

/-- Of the inspections that wait, at most one is about the document. -/
theorem waiting_eq (guarded : Guarded s) (bound : Bound b s) {one two : String × Launch}
    (distinct : (ends.map Prod.fst).Nodup) (waiting : ∀ f ∈ ends, IsWaiting s f.1)
    (first : one ∈ ends) (second : two ∈ ends) (on : b.runs one.1 = some uri)
    (on' : b.runs two.1 = some uri) : one = two := by
  obtain ⟨d, going⟩ := waiting one first
  obtain ⟨e, going'⟩ := waiting two second
  have same : d.uri = e.uri := Option.some.inj
    ((bound.waiting _ _ going).symm.trans (on.trans (on'.symm.trans (bound.waiting _ _ going'))))
  obtain ⟨i, running⟩ := progress?_eq_some going
  obtain ⟨j, running'⟩ := progress?_eq_some going'
  have place := guarded.eq_of_uri (runs_of_run? running) (runs_of_run? running') same
  refine List.inj_on_of_nodup_map distinct first second ?_
  exact bound.filed.apart _ _ i (entry_of_run? running) (place ▸ entry_of_run? running')

/-- Whatever the order of the ends, at most one is left for a document. -/
theorem only_finishing_congr (guarded : Guarded s) (bound : Bound b s) (setup : Setup)
    (uri : String)
    (reordered : ends.Perm others) (distinct : (ends.map Prod.fst).Nodup)
    (waiting : ∀ f ∈ ends, IsWaiting s f.1) :
    only setup uri b (finishing ends) = only setup uri b (finishing others) := by
  have named : ∀ f ∈ ends, ∃ uri, b.runs f.1 = some uri :=
    fun f member => bound.named_of_isWaiting (waiting f member)
  rw [only_finishing named, only_finishing fun f member => named f (reordered.mem_iff.mpr member)]
  have one : ∀ f g, f ∈ ends.filter (fun f => b.runs f.1 = some uri) →
      g ∈ others.filter (fun f => b.runs f.1 = some uri) → True → True → f = g := by
    intro f g first second _ _
    obtain ⟨first, on⟩ := List.mem_filter.mp first
    obtain ⟨second, on'⟩ := List.mem_filter.mp second
    exact waiting_eq guarded bound distinct waiting first (reordered.mem_iff.mpr second)
      (of_decide_eq_true on) (of_decide_eq_true on')
  have pairs (l : List (String × Launch)) : l.Pairwise fun _ _ => True :=
    List.pairwise_of_forall fun _ _ => trivial
  rw [List.Perm.eq_of_pairwise one (pairs _) (pairs _) (reordered.filter _)]

/-- A session replies to the steps about a document, and leaves it, as if the steps about other
documents had not been taken. So the inspections under way may end in any order: each has the same
reply, and each document the same diagnostics. -/
theorem isolated (setup : Setup) (host : Host) (steps : List Step) :
    (∀ uri,
      observed setup uri .none (ofHost host) (only setup uri .none steps) =
          observed setup uri .none (ofHost host) steps ∧
        Publisher.Agrees uri (after setup (ofHost host) steps).publisher
          (after setup (ofHost host) (only setup uri .none steps)).publisher) ∧
    ∀ ends others : List (String × Launch), ends.Perm others → (ends.map Prod.fst).Nodup →
      (∀ f ∈ ends, IsWaiting (after setup (ofHost host) steps) f.1) →
        (∀ exchange,
          exchange ∈ exchanges setup (after setup (ofHost host) steps) (finishing ends) ↔
            exchange ∈ exchanges setup (after setup (ofHost host) steps) (finishing others)) ∧
        ∀ uri,
          Entries.get? uri (after setup (ofHost host) (steps ++ finishing ends)).publisher.store =
            Entries.get? uri
              (after setup (ofHost host) (steps ++ finishing others)).publisher.store := by
  have fresh := bound_ofHost host
  refine ⟨fun uri => (Alike.refl fresh uri).run setup fresh fresh steps, ?_⟩
  intro ends others reordered distinct waiting
  have guarded := guarded_after setup host steps
  obtain ⟨b, bound⟩ := fresh.after setup steps
  simp only [after_append]
  generalize after setup (ofHost host) steps = s at guarded bound waiting ⊢
  have named : ∀ f ∈ ends, ∃ uri, b.runs f.1 = some uri :=
    fun f member => bound.named_of_isWaiting (waiting f member)
  have named' : ∀ f ∈ others, ∃ uri, b.runs f.1 = some uri :=
    fun f member => named f (reordered.mem_iff.mpr member)
  have left (uri : String) :=
    only_finishing_congr guarded bound setup uri reordered distinct waiting
  have run (uri : String) (steps : List Step) :=
    (Alike.refl bound uri).run setup bound bound steps
  constructor
  · intro exchange
    rw [mem_exchanges_finishing named, mem_exchanges_finishing named']
    refine exists_congr fun uri => ?_
    rw [← (run uri (finishing ends)).1, left uri, (run uri (finishing others)).1]
  · intro uri
    rw [(run uri (finishing ends)).2.entry, left uri, ← (run uri (finishing others)).2.entry]

/-- Two inspections under way, one of them of a document that was closed meanwhile. -/
theorem isolated_crossed :
    let setup : Setup := .ofRoot (Path.ofText "/proj")
    let s := after setup (ofHost ⟨.chose none, none⟩)
      [.openView "v" "lib/a.ex", .start "r" "lib/a.ex", .start "q" "lib/b.ex", .closeView "v",
        .documentClosed "v"]
    let r : String × Launch := ("r", .finished "\x7b\"issues\": []\x7d" "" (some 0))
    let q : String × Launch := ("q", .finished "" "boom" (some 2))
    IsWaiting s "r" ∧ IsWaiting s "q" ∧
      ∀ exchange, exchange ∈ exchanges setup s (finishing [r, q]) ↔
        exchange ∈ exchanges setup s (finishing [q, r]) := by
  intro setup s r q
  have first : IsWaiting s "r" := ⟨⟨"lib/a.ex", "file:///proj/lib/a.ex"⟩, by decide +kernel⟩
  have second : IsWaiting s "q" := ⟨⟨"lib/b.ex", "file:///proj/lib/b.ex"⟩, by decide +kernel⟩
  refine ⟨first, second, ((isolated setup _ _).2 [r, q] [q, r] (.swap q r []) ?_ ?_).1⟩
  · decide
  · exact List.forall_mem_cons.mpr ⟨first, List.forall_mem_singleton.mpr second⟩

end CredoAssistant.Session
