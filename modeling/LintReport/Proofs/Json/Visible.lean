import LintReport.Json.Writer
import LintReport.Proofs.Json.Settled
import LintReport.Proofs.Json.Text

/-!
# Written values have no control characters

Whatever strings a value holds, as keys or as values and at any depth, no control character stands
in what is written for it (`Json.visible_write`). Strings are the reason why this needs an
argument: their control characters are written as escapes (`Json.Text.visible_escape`). Numbers
are written with digits, signs, points and marks of a power of ten, floating-point ones too.
-/

namespace LintReport

/-- No character is a control character. -/
def Visible (chars : List Char) : Prop := ∀ c ∈ chars, 0x20 ≤ c.toNat

instance (chars : List Char) : Decidable (Visible chars) :=
  List.decidableBAll (fun c : Char => 0x20 ≤ c.toNat) chars

namespace Visible

theorem nil : Visible [] := List.forall_mem_nil _

theorem cons {c : Char} {chars : List Char} (first : 0x20 ≤ c.toNat) (rest : Visible chars) :
    Visible (c :: chars) := List.forall_mem_cons.mpr ⟨first, rest⟩

theorem append {first second : List Char} (left : Visible first) (right : Visible second) :
    Visible (first ++ second) := List.forall_mem_append.mpr ⟨left, right⟩

theorem of_isDigit {chars : List Char} (digits : ∀ c ∈ chars, c.isDigit) : Visible chars := by
  intro c member
  have digit := digits c member
  unfold Char.isDigit at digit
  have lower : 48 ≤ c.val := of_decide_eq_true (Bool.and_eq_true_iff.mp digit).1
  rw [UInt32.le_iff_toNat_le] at lower
  exact Nat.le_trans (by decide) lower

theorem digits (number : Nat) : Visible (Decimal.digits number) :=
  of_isDigit fun _ => Decimal.isDigit_of_mem_digits

end Visible

namespace Binary64

/-- The digits of a decimal come from a numeral, or there is only a zero. -/
theorem isDigit_of_mem_ofCount {count : Nat} {unit : Int} {c : Char}
    (member : c ∈ (Decimal.ofCount count unit).digits) : c.isDigit := by
  unfold Decimal.ofCount at member
  simp only at member
  split at member
  · rw [List.mem_singleton.mp member]
    rfl
  · have inside := List.mem_reverse.mp member
    have kept := (List.dropWhile_suffix _).subset inside
    exact LintReport.Decimal.isDigit_of_mem_digits (List.mem_reverse.mp kept)

/-- The shortest decimal of a double consists of digits. -/
theorem isDigit_of_mem_shortest {x : Binary64} {tie : Tie} {c : Char}
    (member : c ∈ (x.shortest tie).digits) : c.isDigit := by
  unfold shortest at member
  split at member
  · rw [List.mem_singleton.mp member]
    rfl
  · simp only at member
    cases found : (List.range 17).findSome? fun (more : Nat) =>
        (x.onGrid? tie (floorLog10 x.num x.den - (more : Int))).map
          (Decimal.ofCount · (floorLog10 x.num x.den - (more : Int))) with
    | none =>
        rw [found] at member
        rw [List.mem_singleton.mp member]
        rfl
    | some decimal =>
        rw [found] at member
        obtain ⟨more, _, taken⟩ := List.exists_of_findSome?_eq_some found
        obtain ⟨count, _, rfl⟩ := Option.map_eq_some_iff.mp taken
        exact isDigit_of_mem_ofCount member

theorem Decimal.visible_inFull {d : Decimal} (digits : Visible d.digits) : Visible d.inFull := by
  have zeros (count : Nat) : Visible (List.replicate count '0') := by
    intro c member
    rw [(List.mem_replicate.mp member).2]
    decide
  unfold inFull
  split
  · exact .append (.cons (by decide) (.cons (by decide) (zeros _))) digits
  · refine .append (.append ?_ (zeros _)) (.cons (by decide) ?_)
    · exact fun c member => digits c (List.mem_of_mem_take member)
    · split
      · exact .cons (by decide) .nil
      · exact fun c member => digits c (List.mem_of_mem_drop member)

/-- A decimal written with a power of ten is visible when its digits are. -/
theorem Decimal.visible_scientific {d : Decimal} (digits : Visible d.digits) :
    Visible d.scientific := by
  have exponent : Visible ((if d.lead < 0 then '-' else '+') ::
      LintReport.Decimal.digits d.lead.natAbs) := by
    refine .cons ?_ (.digits _)
    split <;> decide
  unfold scientific
  cases all : d.digits with
  | nil => exact .cons (by decide) exponent
  | cons first more =>
      rw [all] at digits
      obtain ⟨head, rest⟩ := List.forall_mem_cons.mp digits
      cases more with
      | nil => exact .cons head (.cons (by decide) exponent)
      | cons second more =>
          exact .cons head (.append (.cons (by decide) rest) (.cons (by decide) exponent))

/-- A double is written visibly. -/
theorem visible_write (layout : Layout) (x : Binary64) : Visible (write layout x) := by
  have digits : Visible (x.shortest layout.tie).digits :=
    .of_isDigit fun _ => isDigit_of_mem_shortest
  have body : Visible (if layout.least ≤ (x.shortest layout.tie).lead ∧
      (x.shortest layout.tie).lead ≤ layout.greatest
      then (x.shortest layout.tie).inFull else (x.shortest layout.tie).scientific) := by
    split
    · exact Decimal.visible_inFull digits
    · exact Decimal.visible_scientific digits
  unfold write
  simp only
  split
  · exact .cons (by decide) body
  · exact body

end Binary64

namespace Json

/-- Control characters are escaped. -/
theorem Text.visible_escape (c : Char) : Visible (Text.escape c) := by
  -- A letter behind a backslash, a hexadecimal number, or the character itself.
  rcases escape_cases c with ⟨letter, written, _, stands⟩ | ⟨control, written⟩ |
    ⟨written, _, _, visible⟩
  · rw [written]
    refine .cons (by decide) (.cons ?_ .nil)
    unfold unescape? at stands
    split at stands <;> first | decide | cases stands
  · have digit : ∀ value < 16, 0x20 ≤ (Nat.digitChar value).toNat := by decide
    rw [written]
    exact .cons (by decide) (.cons (by decide) (.cons (by decide) (.cons (by decide)
      (.cons (digit _ (by omega)) (.cons (digit _ (by omega)) .nil)))))
  · rw [written]
    exact .cons visible .nil

/-- A string is written visibly: control characters are escaped. -/
theorem Text.visible_write (s : String) : Visible (Text.write s) := by
  refine .cons (by decide) (.append ?_ (.cons (by decide) .nil))
  intro c member
  obtain ⟨plain, _, inside⟩ := List.mem_flatMap.mp member
  exact visible_escape plain c inside

/-- A number is written visibly. -/
theorem visible_writeNumber (n : JsonNumber) : Visible (writeNumber n) := by
  cases n with
  | double x => exact Binary64.visible_write .compact x
  | whole n =>
      rw [writeNumber, Decimal.integer]
      split
      · exact .cons (by decide) (.digits _)
      · exact .digits _

/-- The items of a list are written visibly when each of them is. -/
private theorem visible_writeItems {items : List Json}
    (each : ∀ item ∈ items, Visible (write item)) :
    ∀ first, Visible (writeItems first items) := by
  induction items with
  | nil => exact fun _ => .nil
  | cons item items ih =>
      intro first
      obtain ⟨here, later⟩ := List.forall_mem_cons.mp each
      unfold writeItems
      refine .append (.append ?_ here) (ih later false)
      cases first
      · exact .cons (by decide) .nil
      · exact .nil

private theorem visible_writeMembers {members : Members}
    (each : ∀ member ∈ members, Visible (write member.2)) :
    ∀ first, Visible (writeMembers first members) := by
  induction members with
  | nil => exact fun _ => .nil
  | cons member members ih =>
      intro first
      obtain ⟨here, later⟩ := List.forall_mem_cons.mp each
      unfold writeMembers
      refine .append (.append (.append ?_ (Text.visible_write _)) (.cons (by decide) here))
        (ih later false)
      cases first
      · exact .cons (by decide) .nil
      · exact .nil

/-- **No control character stands in a written value.** -/
theorem visible_write (value : Json) : Visible (write value) := by
  induction value using inductionOn with
  | null =>
      rw [write]
      decide
  | boolean b =>
      cases b <;> rw [write] <;> decide
  | number n => exact visible_writeNumber n
  | string s => exact Text.visible_write s
  | list items each =>
      exact .cons (by decide) (.append (visible_writeItems each true) (.cons (by decide) .nil))
  | object members each =>
      exact .cons (by decide) (.append (visible_writeMembers each true) (.cons (by decide) .nil))

end Json

end LintReport
