import CredoAssistant.Inspection
import CredoAssistant.Proofs.Process.Options
import CredoAssistant.Proofs.Settings.Fields
import CredoAssistant.Publisher

/-!
Time limits. Options that were checked hold no negative time limit, and where the settings of a
setup hold none either, no request of an inspection fails.
-/
namespace CredoAssistant

/-- No time limit, or one that is not below zero. -/
def Settings.IsTimely (s : Settings) : Prop := ∀ t ∈ s.timeout, t.isBelowZero = false

instance (s : Settings) : Decidable s.IsTimely :=
  inferInstanceAs (Decidable (∀ t ∈ s.timeout, t.isBelowZero = false))

/-- Neither the settings nor the options of a setup hold a negative time limit. -/
def Setup.IsTimely (setup : Setup) : Prop :=
  setup.settings.IsTimely ∧ setup.options.isValid = true

instance (setup : Setup) : Decidable setup.IsTimely :=
  inferInstanceAs (Decidable (_ ∧ _))

/-- Inspections in `root` with the default settings and options, on the usual stack. -/
def Setup.ofRoot (root : Path) : Setup := ⟨.default, .empty, root, .usual⟩

theorem Setup.isTimely_ofRoot (root : Path) : (ofRoot root).IsTimely := by
  have settings : Settings.default.IsTimely := by decide
  have options : ProcessOptions.empty.isValid = true := by decide
  exact ⟨settings, options⟩

/-- The options of an inspection: the directory and the time limit of the settings on top of others.
-/
def Inspection.optionsIn (settings : Settings) (o : ProcessOptions) (root : Path) :
    ProcessOptions :=
  ⟨some root, o.env, settings.timeout.map .number <|> o.timeout⟩

/-- Settings without a negative time limit put theirs in. -/
theorem Inspection.withOverrides?_eq {settings : Settings} {o : ProcessOptions}
    (timely : settings.IsTimely) (valid : o.isValid = true) (root : Path) :
    o.withOverrides? (some root) (settings.timeout.map .number) =
      some (optionsIn settings o root) := by
  refine (ProcessOptions.withOverrides?_eq_some_iff valid).mpr ⟨fun t given => ?_, rfl⟩
  obtain ⟨x, limit, rfl⟩ := Option.map_eq_some_iff.mp given
  exact timely x limit

theorem Inspection.request?_eq {settings : Settings} {o : ProcessOptions}
    (timely : settings.IsTimely) (valid : o.isValid = true) (root : Path) (file : String) :
    request? settings o root file =
      some ⟨settings.commandFor file, optionsIn settings o root⟩ := by
  rw [request?, withOverrides?_eq timely valid, Option.map_some]

/-- With a timely setup every inspection is asked for, by its own command. -/
theorem Inspection.request?_of_isTimely {setup : Setup} (timely : setup.IsTimely) (file : String) :
    ∃ q, request? setup.settings setup.options setup.root file = some q ∧
      q.args = setup.settings.commandFor file := by
  obtain ⟨settings, options⟩ := timely
  exact ⟨_, request?_eq settings options setup.root file, rfl⟩

/-- With a timely setup a request is started unless its document is in flight. -/
theorem Publisher.request_free {setup : Setup} (timely : setup.IsTimely) {p : Publisher}
    {d : Document} (free : d.uri ∉ p.inFlight) :
    ∃ q trace, request setup p d = (.started q, trace, p.enter d.uri) ∧
      q.args = setup.settings.commandFor d.path := by
  obtain ⟨q, asked, args⟩ := Inspection.request?_of_isTimely timely d.path
  refine ⟨q, Inspection.startRecord (setup.settings.commandFor d.path), ?_, args⟩
  simp only [request, free, if_false, asked]

end CredoAssistant
