import LintReport.Release.Status
import LintReport.Proofs.Release.Version

/-!
# What the state of an update check says

An update is available exactly when both texts denote versions and the current one is below the
latest. Every state is shown on one line, and states that are shown alike are the same
(`UpdateStatus.text_inj`), so the line tells whether there is an update and which.
-/

namespace LintReport.UpdateStatus

variable {current latest : String}

/-- An update is available exactly when both texts denote versions and the latest is above. -/
theorem resolve_eq_updateAvailable_iff {older newer : Version} :
    resolve current latest = .updateAvailable older newer ↔
      Version.parse current = .ok older ∧ Version.parse latest = .ok newer ∧
        older.Below newer := by
  unfold resolve
  cases Version.parse current with
  | error error => simp
  | ok first =>
      cases Version.parse latest with
      | error error => simp
      | ok second =>
          by_cases below : first.isBelow second = true
          · have less := Version.isBelow_iff.mp below
            simp only [below, ↓reduceIte, updateAvailable.injEq, Except.ok.injEq]
            constructor
            · rintro ⟨rfl, rfl⟩
              exact ⟨rfl, rfl, less⟩
            · rintro ⟨rfl, rfl, _⟩
              exact ⟨rfl, rfl⟩
          · have other : ¬ first.Below second := fun less => below (Version.isBelow_iff.mpr less)
            simp only [below, Bool.false_eq_true, ↓reduceIte, reduceCtorEq, Except.ok.injEq,
              false_iff]
            rintro ⟨rfl, rfl, less⟩
            exact other less

/-- Where there is no update, the current version is shown if it can be read. -/
theorem resolve_eq_upToDate
    (lacks : ¬ ∃ older newer, resolve current latest = .updateAvailable older newer) :
    resolve current latest = .upToDate (Version.parse current).toOption := by
  revert lacks
  unfold resolve
  cases Version.parse current with
  | error error => exact fun _ => rfl
  | ok first =>
      cases Version.parse latest with
      | error error => exact fun _ => rfl
      | ok second =>
          simp only
          intro lacks
          by_cases below : first.isBelow second = true
          · exact absurd ⟨first, second, if_pos below⟩ lacks
          · exact if_neg below

/-- An available update is shown with both versions. -/
theorem text_updateAvailable (current latest : Version) :
    (updateAvailable current latest).text =
      "update available: ".toList ++ (current.text ++ (" -> ".toList ++ latest.text)) := by
  rw [← List.append_assoc, ← List.append_assoc]
  rfl

/-- A program that is up to date is shown with its version. -/
theorem text_upToDate (current : Version) :
    (upToDate (some current)).text = "up to date (".toList ++ (current.text ++ [')']) := by
  rw [← List.append_assoc]
  rfl

/-- The first words of a state tell its kind. -/
def opening : UpdateStatus → String
  | checking => "checking fo"
  | updateAvailable _ _ => "update avai"
  | upToDate (some _) => "up to date "
  | upToDate none => "up to date"

/-- The first characters of a text tell which status it shows. -/
theorem take_text (status : UpdateStatus) : status.text.take 11 = status.opening.toList := by
  cases status with
  | checking => decide
  | updateAvailable current latest =>
      have long : 11 ≤ "update available: ".toList.length := by decide
      have starts : "update available: ".toList.take 11 = "update avai".toList := by decide
      rw [text_updateAvailable, List.take_append_of_le_length long, starts, opening]
  | upToDate current =>
      cases current with
      | none => decide
      | some version =>
          have long : 11 ≤ "up to date (".toList.length := by decide
          have starts : "up to date (".toList.take 11 = "up to date ".toList := by decide
          rw [text_upToDate, List.take_append_of_le_length long, starts, opening]

/-- States that are shown alike are the same. -/
theorem text_inj {first second : UpdateStatus} : first.text = second.text ↔ first = second := by
  refine ⟨fun same => ?_, congrArg text⟩
  -- States of two kinds begin with other words; of one kind, the blank or bracket behind a version
  -- shows where it ends.
  have kinds : first.opening = second.opening := by
    apply String.toList_inj.mp
    rw [← take_text, ← take_text, same]
  cases first with
  | checking =>
      cases second with
      | checking => rfl
      | updateAvailable older newer => simp [opening] at kinds
      | upToDate other => cases other <;> simp [opening] at kinds
  | updateAvailable current latest =>
      cases second with
      | checking => simp [opening] at kinds
      | updateAvailable older newer =>
          have arrow : " -> ".toList = ' ' :: "-> ".toList := by decide
          rw [text_updateAvailable, text_updateAvailable, arrow] at same
          obtain ⟨rfl, behind⟩ := Version.text_append_inj rfl (List.append_cancel_left same)
          rw [Version.text_inj.mp (List.append_cancel_left behind)]
      | upToDate other => cases other <;> simp [opening] at kinds
  | upToDate current =>
      cases second with
      | checking => cases current <;> simp [opening] at kinds
      | updateAvailable older newer => cases current <;> simp [opening] at kinds
      | upToDate other =>
          cases current with
          | none =>
              cases other with
              | none => rfl
              | some version => simp [opening] at kinds
          | some version =>
              cases other with
              | none => simp [opening] at kinds
              | some otherVersion =>
                  rw [text_upToDate, text_upToDate] at same
                  rw [(Version.text_append_inj rfl (List.append_cancel_left same)).1]

/-- A status is shown on one line. -/
theorem newline_not_mem_text (status : UpdateStatus) : '\n' ∉ status.text := by
  have plain := Version.not_mem_text (c := '\n') rfl (by decide)
  cases status with
  | checking => decide
  | updateAvailable current latest =>
      simp only [text_updateAvailable, List.mem_append, not_or]
      exact ⟨by decide, plain current, by decide, plain latest⟩
  | upToDate current =>
      cases current with
      | none => decide
      | some version =>
          simp only [text_upToDate, List.mem_append, not_or]
          exact ⟨by decide, plain version, by decide⟩

/-- Different statuses are shown differently. -/
theorem render_inj {first second : UpdateStatus} :
    first.render = second.render ↔ first = second :=
  String.ofList_inj.trans text_inj

/-- The line of an available update. -/
theorem render_updateAvailable (current latest : Version) :
    (updateAvailable current latest).render =
      "update available: " ++ current.render ++ " -> " ++ latest.render := by
  apply String.toList_inj.mp
  simp only [render, Version.render, text_updateAvailable, String.toList_ofList,
    String.toList_append, List.append_assoc]

/-- The line of a program that is up to date. -/
theorem render_upToDate (current : Version) :
    (upToDate (some current)).render = "up to date (" ++ current.render ++ ")" := by
  apply String.toList_inj.mp
  simp only [render, Version.render, text_upToDate, String.toList_ofList,
    String.toList_append, List.append_assoc]
  rfl

end LintReport.UpdateStatus
