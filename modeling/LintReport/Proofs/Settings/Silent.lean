import LintReport.Settings.Load
import LintReport.Proofs.Inquiry.Answer

/-!
# Looking for settings is not seen

Finding the settings file, reading it and reading a manifest ask and note, and nothing else: they
neither write to the standard output nor tell the user anything. Whoever runs them sees what they
found.
-/

namespace LintReport

namespace Discovery

open Inquiry

/-- Searching upwards is silent. -/
theorem silent_findUp (name : Path) (depth : Nat) : ∀ place, (findUp name depth place).Silent := by
  induction depth with
  | zero => exact fun _ => .pure none
  | succ depth ih =>
      intro place
      refine .bind (.askFile _) fun found => ?_
      cases found with
      | true => exact .pure _
      | false =>
          cases parent : place.parent? with
          | none =>
              simp only [Bool.false_eq_true, ↓reduceIte]
              exact .pure none
          | some above =>
              simp only [Bool.false_eq_true, ↓reduceIte]
              exact ih above

theorem silent_ifFile (path : Path) : (ifFile path).Silent :=
  .bind (.askFile path) fun _ => .pure _

/-- Reading a package description is silent. -/
theorem silent_fromPackage (package : Path) : (fromPackage package).Silent := by
  refine .bind (.askText _) fun answer => ?_
  cases answer with
  | error error => exact .pure none
  | ok text =>
      simp only
      cases Json.parse text with
      | error error => exact .bind (.noteAll _) fun _ => .pure none
      | ok description =>
          simp only
          cases namedPath? package description with
          | none => exact .pure none
          | some path => exact silent_ifFile path

/-- Searching for a package description and reading it is silent. -/
theorem silent_fromNearestPackage (start : Path) : (fromNearestPackage start).Silent := by
  refine .bind (silent_findUp _ _ start) fun found => ?_
  cases found with
  | none => exact .pure none
  | some package => exact silent_fromPackage package

theorem silent_fromHome : fromHome.Silent := by
  refine .bind .askHome fun home => ?_
  cases home with
  | none => exact .pure none
  | some home =>
      refine .bind (silent_ifFile _) fun found => ?_
      cases found with
      | none => exact .pure none
      | some path => exact .bind (.noteAll _) fun _ => .pure _

/-- Asking the three places is silent. -/
theorem silent_findFrom (start : Path) : (findFrom start).Silent := by
  refine .bind (silent_fromNearestPackage start) fun named => ?_
  cases named with
  | some path => exact .bind (.noteAll _) fun _ => .pure _
  | none =>
      refine .bind (silent_findUp _ _ start) fun found => ?_
      cases found with
      | some path => exact .bind (.noteAll _) fun _ => .pure _
      | none => exact silent_fromHome

/-- Looking for a settings file is silent. -/
theorem silent_find (start : Option Path) : (find start).Silent := by
  cases start with
  | some start => exact silent_findFrom start
  | none => exact silent_fromHome

end Discovery

namespace Settings

theorem silent_load (path : Path) : (load path).Silent := by
  refine .bind (.askText _) fun answer => ?_
  cases answer with
  | error error => exact .pure _
  | ok text => exact .bind (.noteAll _) fun _ => .pure _

/-- Loading settings and keeping where they are from is silent. -/
theorem silent_loadSource (path : Path) : (loadSource path).Silent :=
  .bind (silent_load path) fun _ => .pure _

/-- Looking for settings and loading them is silent. -/
theorem silent_discover (directory : Path) : (discover directory).Silent := by
  refine .bind (Discovery.silent_find _) fun found => ?_
  cases found with
  | some path => exact silent_loadSource path
  | none => exact .bind (.noteAll _) fun _ => .pure _

end Settings

/-- Loading a manifest is silent. -/
theorem Manifest.silent_load (path : Path) : (load path).Silent := by
  refine .bind (.askText _) fun answer => ?_
  cases answer with
  | error error => exact .pure _
  | ok text => exact .pure _

end LintReport
