import LintReport.Report.Delivery

/-!
# Findings in order

Putting a batch in order is determined by three properties, whatever the findings say: the outcome
has the findings of the batch, it ascends by line and character, and findings at one place keep
their order (`Finding.Arranges`). The reporter's outcome has them, and no other list does
(`Reporter.collect_arranges_uniquely`).
-/

namespace LintReport

namespace Finding

/-- A finding stands at an earlier place than another, or at the same place: lines count first,
then characters. -/
def UpTo (left right : Finding) : Prop :=
  left.line < right.line ∨ left.line = right.line ∧ left.character ≤ right.character

/-- Whether a finding stands at a place. -/
def standsAt (line character : UInt64) (finding : Finding) : Bool :=
  finding.line == line && finding.character == character

/-- One list of findings is another put in order: it has the same findings, it ascends, and at
each place the findings stand as they came. -/
structure Arranges (input output : List Finding) : Prop where
  permutes : output.Perm input
  ascends : output.Pairwise UpTo
  keepsTies : ∀ line character,
    output.filter (standsAt line character) = input.filter (standsAt line character)

/-- The comparison of the program is the order of positions. -/
theorem notAfter_iff {left right : Finding} : left.notAfter right = true ↔ left.UpTo right := by
  unfold notAfter comparePosition UpTo
  rw [Ordering.isLE_then_iff_or, Std.compare_eq_lt, Std.compare_eq_iff_eq, Std.isLE_compare]

theorem UpTo.trans {first second third : Finding} (earlier : first.UpTo second)
    (later : second.UpTo third) : first.UpTo third := by
  unfold UpTo at *
  rw [UInt64.lt_iff_toNat_lt, UInt64.le_iff_toNat_le, ← UInt64.toNat_inj] at *
  omega

theorem UpTo.total (left right : Finding) : left.UpTo right ∨ right.UpTo left := by
  unfold UpTo
  simp only [UInt64.lt_iff_toNat_lt, UInt64.le_iff_toNat_le, ← UInt64.toNat_inj]
  omega

/-- Findings of which neither comes first stand at one place. -/
theorem UpTo.antisymm {left right : Finding} (before : left.UpTo right) (after : right.UpTo left) :
    left.line = right.line ∧ left.character = right.character := by
  unfold UpTo at before after
  simp only [UInt64.lt_iff_toNat_lt, UInt64.le_iff_toNat_le, ← UInt64.toNat_inj] at *
  omega

theorem standsAt_iff {line character : UInt64} {finding : Finding} :
    standsAt line character finding = true ↔
      finding.line = line ∧ finding.character = character := by
  rw [standsAt, Bool.and_eq_true, beq_iff_eq, beq_iff_eq]

private theorem standsAt_self (finding : Finding) :
    standsAt finding.line finding.character finding = true := standsAt_iff.mpr ⟨rfl, rfl⟩

/-- Lists that agree at every position have the same findings. -/
private theorem mem_of_same_ties {left right : List Finding}
    (same : ∀ line character,
      left.filter (standsAt line character) = right.filter (standsAt line character))
    {finding : Finding} (member : finding ∈ left) : finding ∈ right := by
  have tied : finding ∈ left.filter (standsAt finding.line finding.character) :=
    List.mem_filter.mpr ⟨member, finding.standsAt_self⟩
  rw [same] at tied
  exact (List.mem_filter.mp tied).1

/-- **Only one ascending list has the same findings in the same order at each place.** -/
theorem eq_of_ascends_of_ties {left : List Finding} :
    ∀ {right : List Finding}, left.Pairwise UpTo → right.Pairwise UpTo →
      (∀ line character,
        left.filter (standsAt line character) = right.filter (standsAt line character)) →
      left = right := by
  induction left with
  | nil =>
      intro right _ _ same
      cases right with
      | nil => rfl
      | cons finding right =>
          exact absurd (mem_of_same_ties (fun l c => (same l c).symm) List.mem_cons_self)
            List.not_mem_nil
  | cons first left ih =>
      intro right leftAscends rightAscends same
      cases right with
      | nil => exact absurd (mem_of_same_ties same List.mem_cons_self) List.not_mem_nil
      | cons other right =>
          obtain ⟨firstLeast, leftRest⟩ := List.pairwise_cons.mp leftAscends
          obtain ⟨otherLeast, rightRest⟩ := List.pairwise_cons.mp rightAscends
          have before : first.UpTo other := by
            rcases List.mem_cons.mp (mem_of_same_ties (fun l c => (same l c).symm)
              (List.mem_cons_self (a := other) (l := right))) with here | later
            · exact here ▸ .inr ⟨rfl, UInt64.le_refl _⟩
            · exact firstLeast other later
          have after : other.UpTo first := by
            rcases List.mem_cons.mp (mem_of_same_ties same
              (List.mem_cons_self (a := first) (l := left))) with here | later
            · exact here ▸ .inr ⟨rfl, UInt64.le_refl _⟩
            · exact otherLeast first later
          obtain ⟨line, character⟩ := UpTo.antisymm before after
          -- Both heads stand at one place, so the ties there show that they are the same.
          have heads := same first.line first.character
          rw [List.filter_cons_of_pos first.standsAt_self,
            List.filter_cons_of_pos (standsAt_iff.mpr ⟨line.symm, character.symm⟩),
            List.cons.injEq] at heads
          obtain ⟨rfl, _⟩ := heads
          refine congrArg (first :: ·) (ih leftRest rightRest fun l c => ?_)
          have ties := same l c
          rw [List.filter_cons, List.filter_cons] at ties
          split at ties
          · exact (List.cons.inj ties).2
          · exact ties

/-- Sorting arranges the findings. -/
theorem arranges_sort (findings : List Finding) : Arranges findings (sort findings) := by
  have trans : ∀ a b c : Finding, a.notAfter b → b.notAfter c → a.notAfter c :=
    fun a b c earlier later =>
      notAfter_iff.mpr ((notAfter_iff.mp earlier).trans (notAfter_iff.mp later))
  have total : ∀ a b : Finding, (a.notAfter b || b.notAfter a) = true := by
    intro a b
    rw [Bool.or_eq_true, notAfter_iff, notAfter_iff]
    exact UpTo.total a b
  refine ⟨sort_perm findings, ?_, ?_⟩
  · exact (List.pairwise_mergeSort trans total findings).imp notAfter_iff.mp
  · intro line character
    -- Findings at one place are a sorted part of the batch, and such parts survive sorting.
    have tied : (findings.filter (standsAt line character)).Pairwise (fun a b => a.notAfter b) := by
      refine List.pairwise_of_forall_mem_list fun a aMember b bMember => ?_
      have aPlace := standsAt_iff.mp (List.mem_filter.mp aMember).2
      have bPlace := standsAt_iff.mp (List.mem_filter.mp bMember).2
      refine notAfter_iff.mpr (.inr ⟨aPlace.1.trans bPlace.1.symm, ?_⟩)
      rw [aPlace.2, bPlace.2]
      exact UInt64.le_refl _
    have kept : (findings.filter (standsAt line character)).Sublist (sort findings) :=
      List.sublist_mergeSort trans total tied List.filter_sublist
    have within := kept.filter (standsAt line character)
    rw [List.filter_filter] at within
    simp only [Bool.and_self] at within
    refine (within.eq_of_length ?_).symm
    exact (((sort_perm findings).filter (standsAt line character)).length_eq).symm

namespace Arranges

/-- Findings can be put in order in one way only. -/
theorem unique {input output other : List Finding} (first : Arranges input output)
    (second : Arranges input other) : other = output :=
  eq_of_ascends_of_ties second.ascends first.ascends fun line character =>
    (second.keepsTies line character).trans (first.keepsTies line character).symm

/-- What is in order already is put in order by leaving it as it is. -/
theorem self {input output : List Finding} (arranged : Arranges input output) :
    Arranges output output :=
  ⟨.refl output, arranged.ascends, fun _ _ => rfl⟩

end Arranges

end Finding

namespace Reporter

/-- A reporter that sorts collects the findings sorted. -/
theorem collect_of_sort {reporter : Reporter} (sorts : reporter.options.sort = true)
    (records : List Record) :
    reporter.collect records = Finding.sort (records.map Record.finding) := by
  unfold collect
  rw [if_pos sorts]

/-- A reporter that does not sort collects the findings as they come. -/
theorem collect_of_not_sort {reporter : Reporter} (keeps : reporter.options.sort = false)
    (records : List Record) : reporter.collect records = records.map Record.finding := by
  unfold collect
  rw [if_neg (Bool.eq_false_iff.mp keeps)]

/-- Collecting loses no finding and repeats none. -/
theorem collect_perm (reporter : Reporter) (records : List Record) :
    (reporter.collect records).Perm (records.map Record.finding) := by
  cases sorts : reporter.options.sort with
  | false => rw [collect_of_not_sort sorts]
  | true =>
      rw [collect_of_sort sorts]
      exact Finding.sort_perm _

/-- Every finding that is collected is that of a record. -/
theorem exists_of_mem_collect (reporter : Reporter) {records : List Record} {finding : Finding}
    (member : finding ∈ reporter.collect records) :
    ∃ record ∈ records, record.finding = finding :=
  List.mem_map.mp ((reporter.collect_perm records).mem_iff.mp member)

/-- Findings that have no other record are collected from records of their own. -/
theorem map_finding_ofFinding (findings : List Finding) :
    (findings.map Record.ofFinding).map Record.finding = findings := by
  rw [List.map_map]
  exact List.map_id findings

/-- Collecting twice does no more than once. -/
theorem collect_collect (reporter : Reporter) (records : List Record) :
    reporter.collect ((reporter.collect records).map Record.ofFinding) =
      reporter.collect records := by
  cases sorts : reporter.options.sort with
  | false => rw [collect_of_not_sort sorts, map_finding_ofFinding]
  | true =>
      rw [collect_of_sort sorts, collect_of_sort sorts, map_finding_ofFinding]
      exact ((Finding.arranges_sort _).self.unique (Finding.arranges_sort _))

/-- **A batch is put in order in the one possible way.** With sorting on, the collected findings are
those of the batch in ascending order, findings at one place as they came; no other list is, so
batches that differ only in the order of findings at different places are collected alike, and
collecting again changes nothing. With sorting off, the findings come as the records do. -/
theorem collect_arranges_uniquely (reporter : Reporter) (records : List Record) :
    (reporter.options.sort = true →
      Finding.Arranges (records.map Record.finding) (reporter.collect records) ∧
      (∀ other, Finding.Arranges (records.map Record.finding) other →
        other = reporter.collect records) ∧
      (∀ others : List Record, others.Perm records →
        (∀ line character,
          (others.map Record.finding).filter (Finding.standsAt line character) =
            (records.map Record.finding).filter (Finding.standsAt line character)) →
        reporter.collect others = reporter.collect records) ∧
      reporter.collect ((reporter.collect records).map Record.ofFinding) =
        reporter.collect records) ∧
    (reporter.options.sort = false → reporter.collect records = records.map Record.finding) := by
  refine ⟨fun sorts => ?_, fun keeps => collect_of_not_sort keeps records⟩
  have arranged (batch : List Record) :
      Finding.Arranges (batch.map Record.finding) (reporter.collect batch) := by
    rw [collect_of_sort sorts]
    exact Finding.arranges_sort _
  refine ⟨arranged records, fun other => (arranged records).unique, ?_,
    reporter.collect_collect records⟩
  intro others permuted ties
  refine (arranged records).unique ⟨?_, (arranged others).ascends, ?_⟩
  · exact (arranged others).permutes.trans (permuted.map Record.finding)
  · intro line character
    rw [(arranged others).keepsTies, ties]

/-- Two findings at one place keep their order, and one at an earlier place comes before them. -/
theorem collect_arranges_tie :
    (Reporter.ofOptions .default).collect
        [.ofFinding ((Finding.atPosition 5 3).attach "tag" (.string "a")),
          .ofFinding (.atPosition 2 18446744073709551615),
          .ofFinding ((Finding.atPosition 5 3).attach "tag" (.string "b"))] =
      [.atPosition 2 18446744073709551615, (Finding.atPosition 5 3).attach "tag" (.string "a"),
        (Finding.atPosition 5 3).attach "tag" (.string "b")] := by
  refine (((collect_arranges_uniquely (Reporter.ofOptions .default) _).1 rfl).2.1 _ ?_).symm
  refine ⟨.swap .., ?_, ?_⟩
  · simp only [List.pairwise_cons, List.mem_cons, List.not_mem_nil, or_false, forall_eq_or_imp,
      forall_eq, false_imp_iff, implies_true, and_true, List.Pairwise.nil, Finding.UpTo]
    exact ⟨⟨.inl (by decide), .inl (by decide)⟩, .inr ⟨rfl, by decide⟩⟩
  · intro line character
    have apart : ¬ (Finding.standsAt line character (.atPosition 2 18446744073709551615) = true ∧
        Finding.standsAt line character
          ((Finding.atPosition 5 3).attach "tag" (.string "a")) = true) := by
      rw [Finding.standsAt_iff, Finding.standsAt_iff]
      rintro ⟨⟨rfl, _⟩, ⟨impossible, _⟩⟩
      cases impossible
    simp only [List.map_cons, List.map_nil, Record.ofFinding, List.filter_cons]
    grind

end Reporter

end LintReport
