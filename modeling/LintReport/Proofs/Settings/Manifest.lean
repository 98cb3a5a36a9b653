import LintReport.Proofs.Settings.Fields
import LintReport.Proofs.Toml.Quoted

/-!
# The manifest that settings name

Settings never name a blank manifest, and any other they name as it is written
(`Settings.parse_manifest`).
-/

namespace LintReport.Settings

open Toml (Spelling Bare)

/-- The settings in which only the manifest is set. -/
def naming (manifest : String) : Settings := ⟨.default, ⟨some manifest⟩⟩

/-- Settings that name a manifest pass exactly when the name is not blank. -/
theorem presentable_naming {manifest : String} :
    (naming manifest).Presentable ↔ ∃ c ∈ manifest.toList, isBlank c = false := by
  constructor
  · intro presentable
    exact presentable manifest rfl
  · rintro visible other ⟨⟩
    exact visible

/-- A text that names a manifest, however it is spelled, is as good as the manifest. -/
theorem parse_naming {manifest : String} {letters : List Char}
    (spelling : Spelling letters manifest.toList) {ending : String}
    (ends : ending = "" ∨ ending = "\n") :
    parse ("[update]\nmanifest = \"" ++ String.ofList letters ++ "\"" ++ ending) =
      validate (naming manifest) := by
  have update : Bare "update".toList := ⟨by decide, List.all_eq_true.mp (by decide)⟩
  have key : Bare "manifest".toList := ⟨by decide, List.all_eq_true.mp (by decide)⟩
  have closed : ending.toList = [] ∨ ending.toList = ['\n'] := by
    rcases ends with rfl | rfl
    · exact .inl rfl
    · exact .inr rfl
  obtain ⟨first, second, third, fourth, reads⟩ := Toml.parse_section spelling update key closed
  have opening : "[update]\nmanifest = \"".toList = '[' :: ("update".toList ++ ']' :: '\n' ::
    ("manifest".toList ++ [' ', '=', ' ', '"'])) := rfl
  have quote : "\"".toList = ['"'] := rfl
  have text : ("[update]\nmanifest = \"" ++ String.ofList letters ++ "\"" ++ ending).toList =
      '[' :: ("update".toList ++ ']' :: '\n' ::
        ("manifest".toList ++ ' ' :: '=' :: ' ' :: '"' :: (letters ++ '"' :: ending.toList))) := by
    simp only [String.toList_append, String.toList_ofList, opening, quote, List.append_assoc,
      List.cons_append, List.nil_append]
  rw [parse, ofChars, text, reads]
  simp only [String.ofList_toList]
  rfl

/-- **Settings never name a blank manifest, and name any other as it is written.** Whatever a text
is, the manifest of its settings, if they have one, has a character that is not white space. And
every string can be spelled between quotes; let it be the manifest of a text of a header and a line,
however it is spelled. If one of its characters is not white space then the text gives settings,
which name just that string; else the manifest is said to be blank, and there are no settings. -/
theorem parse_manifest :
    (∀ text settings, parse text = .ok settings → ∀ manifest,
      settings.update.manifest = some manifest → ∃ c ∈ manifest.toList, isBlank c = false) ∧
    ∀ manifest : String, (∃ letters, Spelling letters manifest.toList) ∧
      ∀ letters ending, Spelling letters manifest.toList → (ending = "" ∨ ending = "\n") →
        let text := "[update]\nmanifest = \"" ++ String.ofList letters ++ "\"" ++ ending
        ((∃ settings, parse text = .ok settings) ↔ ∃ c ∈ manifest.toList, isBlank c = false) ∧
        (∀ settings, parse text = .ok settings →
          settings.update.manifest = some manifest ∧ settings.report = .default) ∧
        ((∀ settings, parse text ≠ .ok settings) → parse text = .error .blankManifest) := by
  constructor
  · intro text settings gives
    obtain ⟨entries, _, _, presentable⟩ := parse_eq_ok.mp gives
    exact presentable
  · intro manifest
    refine ⟨Toml.exists_spelling _, ?_⟩
    intro letters ending spelling ends text
    have outcome : parse text = validate (naming manifest) := parse_naming spelling ends
    rw [outcome, ← presentable_naming]
    by_cases presentable : (naming manifest).Presentable
    · rw [validate_of_presentable presentable]
      refine ⟨⟨fun _ => presentable, fun _ => ⟨_, rfl⟩⟩, ?_, fun none => absurd rfl (none _)⟩
      rintro settings ⟨⟩
      exact ⟨rfl, rfl⟩
    · rw [validate_of_not_presentable presentable]
      refine ⟨⟨?_, fun visible => absurd visible presentable⟩, ?_, fun _ => rfl⟩
      · rintro ⟨settings, ⟨⟩⟩
      · rintro settings ⟨⟩

/-- A tab and a blank are kept around a manifest, and are none by themselves. -/
theorem parse_manifest_tab :
    (∃ settings, parse "[update]\nmanifest = \"\\tm \"\n" = .ok settings ∧
      settings.update.manifest = some "\tm ") ∧
    parse "[update]\nmanifest = \"\\t \"" = .error .blankManifest := by
  have tab : Toml.Escape ['t'] '\t' := .short (by decide)
  have blank : Spelling [' '] [' '] := .plain (by decide) (by decide) (by decide) .none
  have kept : Spelling ['\\', 't', 'm', ' '] "\tm ".toList :=
    .escaped tab (.plain (by decide) (by decide) (by decide) blank)
  have lost : Spelling ['\\', 't', ' '] "\t ".toList := .escaped tab blank
  obtain ⟨_, named⟩ := parse_manifest.2 "\tm "
  obtain ⟨gives, names, _⟩ := named _ "\n" kept (.inr rfl)
  obtain ⟨_, unnamed⟩ := parse_manifest.2 "\t "
  obtain ⟨onlyIf, _, otherwise⟩ := unnamed _ "" lost (.inl rfl)
  constructor
  · obtain ⟨settings, given⟩ := gives.mpr ⟨'m', by decide, by decide⟩
    exact ⟨settings, given, (names settings given).1⟩
  · apply otherwise
    intro settings given
    obtain ⟨c, member, visible⟩ := onlyIf.mp ⟨settings, given⟩
    have all : ∀ c ∈ "\t ".toList, isBlank c = true := List.all_eq_true.mp (by decide)
    exact Bool.false_ne_true (visible.symm.trans (all c member))

end LintReport.Settings
