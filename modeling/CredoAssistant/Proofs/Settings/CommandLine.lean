import CredoAssistant.Inspection
import CredoAssistant.Proofs.Settings.Fields
import CredoAssistant.Proofs.Shell.Words

/-!
Command lines in settings. Where a field is a list of words, a command line may stand for it, and
the line that is written for some words stands for these words. The command of an inspection always
has a line, since the format of the report is among its words.
-/
namespace CredoAssistant.Settings

open Validation

/-- A command line that stands for some words: it splits into them, and settings that are read with
it hold these words in its place and are otherwise what the other members say. -/
structure Spells (line : String) (ws : List String) : Prop where
  split : Shell.split line = .ok ws
  command : ∀ ms s, Entries.get? "command" ms = some (.text line) →
    (ofMembers ms = .ok s ↔ s.command = ws ∧
      ofMembers (Entries.erase "command" ms) = .ok { s with command := default.command })
  extraArgs : ∀ ms s, Entries.get? "extra_args" ms = some (.text line) →
    (ofMembers ms = .ok s ↔ s.extraArgs = ws ∧
      ofMembers (Entries.erase "extra_args" ms) = .ok { s with extraArgs := default.extraArgs })
  syntaxes : ∀ ms s, Entries.get? "syntaxes" ms = some (.text line) →
    (ofMembers ms = .ok s ↔ s.syntaxes = ws ∧
      ofMembers (Entries.erase "syntaxes" ms) = .ok { s with syntaxes := default.syntaxes })

theorem words_of_split {field line : String} {ws : List String}
    (split : Shell.split line = .ok ws) :
    words field (.text line) = .passed ws := by
  simp only [words, split]

theorem nonemptyWords_of_split {field line : String} {ws : List String} (given : ws ≠ [])
    (split : Shell.split line = .ok ws) : nonemptyWords field (.text line) = .passed ws := by
  rw [nonemptyWords, words_of_split split]
  cases ws with
  | nil => exact absurd rfl given
  | cons w ws => rfl

/-- The command needs a word; the other lists may be empty. -/
theorem spells_of_split {line : String} {ws : List String} (given : ws ≠ [])
    (split : Shell.split line = .ok ws) : Spells line ws := by
  have checked {x : List String} {c : Checked (List String)} (passes : c = .passed ws) :
      c = .passed x ↔ x = ws := by
    rw [passes, Checked.passed.injEq, eq_comm]
  constructor
  case split => exact split
  case command =>
    intro ms s found
    exact (ofMembers_eq_ok_iff_erase (f := .command) found).trans
      (and_congr_left' (checked (nonemptyWords_of_split given split)))
  case extraArgs =>
    intro ms s found
    exact (ofMembers_eq_ok_iff_erase (f := .extraArgs) found).trans
      (and_congr_left' (checked (words_of_split split)))
  case syntaxes =>
    intro ms s found
    exact (ofMembers_eq_ok_iff_erase (f := .syntaxes) found).trans
      (and_congr_left' (checked (words_of_split split)))

theorem commandFor_ne_nil (s : Settings) (file : String) : s.commandFor file ≠ [] := by
  simp [commandFor]

/-- Words that are written as a command line are what it stands for, in settings and for the shell
that inspects a file. -/
theorem written_line_spells {args : List String} (given : args ≠ []) :
    (∃ line, Shell.commandLine? args = some line ∧ Spells line args) ∧
      ∀ (s : Settings) (file : String), ∃ line, Shell.commandLine? (s.commandFor file) = some line ∧
        Shell.split line = .ok (s.commandFor file) ∧
        ∀ options root q, Inspection.request? s options root file = some q →
          Shell.commandLine? q.args = some line := by
  constructor
  · obtain ⟨line, written⟩ := Shell.exists_commandLine? given
    exact ⟨line, written, spells_of_split given (Shell.split_of_commandLine? written)⟩
  · intro s file
    obtain ⟨line, written⟩ := Shell.exists_commandLine? (commandFor_ne_nil s file)
    refine ⟨line, written, Shell.split_of_commandLine? written, fun options root q asked => ?_⟩
    simp only [Inspection.request?, Option.map_eq_some_iff] at asked
    obtain ⟨o, _, rfl⟩ := asked
    exact written

theorem unusual_line_spells :
    Shell.commandLine? ["", "it's", "a\\b", "$x y", "\n\"é\""] =
        some "'' 'it'\"'\"'s' 'a\\b' '$x y' '\n\"é\"'" ∧
      ["", "it's", "a\\b", "$x y", "\n\"é\""] ≠ [] ∧
      ∃ line, Shell.commandLine? ["", "it's", "a\\b", "$x y", "\n\"é\""] = some line ∧
        Spells line ["", "it's", "a\\b", "$x y", "\n\"é\""] :=
  have given : ["", "it's", "a\\b", "$x y", "\n\"é\""] ≠ [] := by decide
  ⟨by decide, given, (written_line_spells given).1⟩

end CredoAssistant.Settings
