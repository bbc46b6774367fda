import CredoAssistant.Proofs.Session.Orphans

/-!
Views up to their numbers. Sessions number their views in the order of opening, so two sessions that
open the same views of a document among different others give them different numbers. Nothing that a
session does with a view depends on more of the number than which views share it.
-/
namespace CredoAssistant.Session

variable {uri other name : String} {m : Nat → Nat → Prop} {s s' t t' : Session} {d : Document}
  {v w : View}

/-- The views of the document of `uri` are the same in two sessions when `m` pairs their numbers. -/
structure Mirrors (uri : String) (m : Nat → Nat → Prop) (s t : Session) : Prop where
  matched : ∀ i j k l, m i k → m j l → (i = j ↔ k = l)
  given : ∀ i k, m i k → i < s.nextView ∧ k < t.nextView
  forth : ∀ v ∈ s.publisher.views, v.document.uri = uri →
    ∃ w ∈ t.publisher.views, w.document.uri = uri ∧ m v.number w.number
  back : ∀ w ∈ t.publisher.views, w.document.uri = uri →
    ∃ v ∈ s.publisher.views, v.document.uri = uri ∧ m v.number w.number
  named : ∀ name v, Entries.get? name s.views = some v → v.document.uri = uri →
    ∃ w, Entries.get? name t.views = some w ∧ w.document.uri = uri ∧ m v.number w.number

/-- Open and named views are as they were. -/
structure Unmoved (s s' : Session) : Prop where
  opened : s'.publisher.views = s.publisher.views
  named : s'.views = s.views
  next : s'.nextView = s.nextView

namespace Mirrors

theorem refl (numbered : Numbered s) (uri : String) :
    Mirrors uri (fun i k => i = k ∧ i < s.nextView) s s := by
  refine ⟨?_, ?_, fun v shown on => ?_, fun v shown on => ?_, fun name v known on => ?_⟩
  · rintro i j _ _ ⟨rfl, _⟩ ⟨rfl, _⟩
    exact Iff.rfl
  · rintro i _ ⟨rfl, less⟩
    exact ⟨less, less⟩
  · exact ⟨v, shown, on, rfl, numbered.opened v shown⟩
  · exact ⟨v, shown, on, rfl, numbered.opened v shown⟩
  · exact ⟨v, known, on, rfl, numbered.named name v known⟩

theorem congr (mirrors : Mirrors uri m s t) (left : Unmoved s s') (right : Unmoved t t') :
    Mirrors uri m s' t' := by
  refine ⟨mirrors.matched, ?_, ?_, ?_, ?_⟩
  · rw [left.next, right.next]
    exact mirrors.given
  · rw [left.opened, right.opened]
    exact mirrors.forth
  · rw [left.opened, right.opened]
    exact mirrors.back
  · rw [left.named, right.named]
    exact mirrors.named

/-- Paired views are shown elsewhere alike. -/
theorem isShownElsewhere (mirrors : Mirrors uri m s t) (left : v.document.uri = uri)
    (right : w.document.uri = uri) (paired : m v.number w.number) :
    s.publisher.isShownElsewhere v = t.publisher.isShownElsewhere w := by
  rw [Bool.eq_iff_iff, Publisher.isShownElsewhere_iff, Publisher.isShownElsewhere_iff, left, right]
  constructor
  · rintro ⟨x, shown, apart, on⟩
    obtain ⟨y, shown', on', paired'⟩ := mirrors.forth x shown on
    exact ⟨y, shown', (mirrors.matched _ _ _ _ paired' paired).not.mp apart, on'⟩
  · rintro ⟨y, shown, apart, on⟩
    obtain ⟨x, shown', on', paired'⟩ := mirrors.back y shown on
    exact ⟨x, shown', (mirrors.matched _ _ _ _ paired' paired).not.mpr apart, on'⟩

end Mirrors

/-- A session with one more view, under a name. -/
def opening (s : Session) (name : String) (d : Document) : Session :=
  { s with
    publisher := s.publisher.openView ⟨s.nextView, d⟩
    views := Entries.set name ⟨s.nextView, d⟩ s.views
    nextView := s.nextView + 1 }

theorem mem_opening : v ∈ (s.opening name d).publisher.views ↔
    v ∈ s.publisher.views ∨ v = ⟨s.nextView, d⟩ := by
  simp [opening, Publisher.openView]

theorem get?_opening : Entries.get? other (s.opening name d).views =
    if other = name then some ⟨s.nextView, d⟩ else Entries.get? other s.views := by
  split
  · subst other
    exact Entries.get?_set_self _ _ _
  · rename_i apart
    exact Entries.get?_set_ne (Ne.symm apart) _ _

/-- A session without a view. -/
def forgetting (s : Session) (v : View) : Session := { s with publisher := s.publisher.closeView v }

theorem mem_closeView {p : Publisher} : w ∈ (p.closeView v).views ↔
    w ∈ p.views ∧ w.number ≠ v.number := by
  simp [Publisher.closeView]

namespace Mirrors

/-- A new view of another document is not mirrored. -/
theorem opening_left (mirrors : Mirrors uri m s t) (apart : d.uri ≠ uri) :
    Mirrors uri m (s.opening name d) t := by
  refine ⟨mirrors.matched, fun i k paired => ?_, fun v shown on => ?_, fun w shown on => ?_,
    fun other v known on => ?_⟩
  · exact ⟨Nat.lt_succ_of_lt (mirrors.given i k paired).1, (mirrors.given i k paired).2⟩
  · rcases mem_opening.mp shown with before | rfl
    · exact mirrors.forth v before on
    · exact absurd on apart
  · obtain ⟨v, before, on', paired⟩ := mirrors.back w shown on
    exact ⟨v, mem_opening.mpr (.inl before), on', paired⟩
  · rw [get?_opening] at known
    split at known
    · cases known
      exact absurd on apart
    · exact mirrors.named other v known on

/-- New views of the document are paired. -/
theorem opening_both (mirrors : Mirrors uri m s t) (on : d.uri = uri) :
    Mirrors uri (fun i k => m i k ∨ i = s.nextView ∧ k = t.nextView) (s.opening name d)
      (t.opening name d) := by
  refine ⟨?_, ?_, fun v shown about => ?_, fun w shown about => ?_, fun other v known about => ?_⟩
  · rintro i j k l (first | ⟨rfl, rfl⟩) (second | ⟨rfl, rfl⟩)
    · exact mirrors.matched i j k l first second
    · have less := mirrors.given i k first
      exact iff_of_false (Nat.ne_of_lt less.1) (Nat.ne_of_lt less.2)
    · have less := mirrors.given j l second
      exact iff_of_false (Nat.ne_of_gt less.1) (Nat.ne_of_gt less.2)
    · exact iff_of_true rfl rfl
  · rintro i k (before | ⟨rfl, rfl⟩)
    · have less := mirrors.given i k before
      exact ⟨Nat.lt_succ_of_lt less.1, Nat.lt_succ_of_lt less.2⟩
    · exact ⟨Nat.lt_succ_self _, Nat.lt_succ_self _⟩
  · rcases mem_opening.mp shown with before | rfl
    · obtain ⟨w, shown', on', paired⟩ := mirrors.forth v before about
      exact ⟨w, mem_opening.mpr (.inl shown'), on', .inl paired⟩
    · exact ⟨⟨t.nextView, d⟩, mem_opening.mpr (.inr rfl), on, .inr ⟨rfl, rfl⟩⟩
  · rcases mem_opening.mp shown with before | rfl
    · obtain ⟨v, shown', on', paired⟩ := mirrors.back w before about
      exact ⟨v, mem_opening.mpr (.inl shown'), on', .inl paired⟩
    · exact ⟨⟨s.nextView, d⟩, mem_opening.mpr (.inr rfl), on, .inr ⟨rfl, rfl⟩⟩
  · simp only [get?_opening] at known ⊢
    by_cases same : other = name
    · rw [if_pos same] at known ⊢
      cases known
      exact ⟨⟨t.nextView, d⟩, rfl, on, .inr ⟨rfl, rfl⟩⟩
    · rw [if_neg same] at known ⊢
      obtain ⟨w, known', on', paired⟩ := mirrors.named other v known about
      exact ⟨w, known', on', .inl paired⟩

/-- Forgetting a view of another document leaves those that are mirrored. -/
theorem forgetting_left (mirrors : Mirrors uri m s t) (numbered : Numbered s)
    (known : Entries.get? name s.views = some v) (apart : v.document.uri ≠ uri) :
    Mirrors uri m (s.forgetting v) t := by
  refine ⟨mirrors.matched, mirrors.given, fun x shown on => ?_, fun y shown on => ?_, mirrors.named⟩
  · exact mirrors.forth x (mem_closeView.mp shown).1 on
  · obtain ⟨x, shown', on', paired⟩ := mirrors.back y shown on
    refine ⟨x, mem_closeView.mpr ⟨shown', fun same => apart ?_⟩, on', paired⟩
    rw [← numbered.apart name v known x shown' same]
    exact on'

/-- Paired views are forgotten together. -/
theorem forgetting_both (mirrors : Mirrors uri m s t) (paired : m v.number w.number) :
    Mirrors uri m (s.forgetting v) (t.forgetting w) := by
  refine ⟨mirrors.matched, mirrors.given, fun x shown on => ?_, fun y shown on => ?_, mirrors.named⟩
  · obtain ⟨shown, apart⟩ := mem_closeView.mp shown
    obtain ⟨y, shown', on', also⟩ := mirrors.forth x shown on
    have apart' := (mirrors.matched _ _ _ _ also paired).not.mp apart
    exact ⟨y, mem_closeView.mpr ⟨shown', apart'⟩, on', also⟩
  · obtain ⟨shown, apart⟩ := mem_closeView.mp shown
    obtain ⟨x, shown', on', also⟩ := mirrors.back y shown on
    have apart' := (mirrors.matched _ _ _ _ also paired).not.mpr apart
    exact ⟨x, mem_closeView.mpr ⟨shown', apart'⟩, on', also⟩

end Mirrors

end CredoAssistant.Session
