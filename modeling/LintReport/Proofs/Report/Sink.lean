import LintReport.Report.Sink
import LintReport.Proofs.Report.Outlet

/-!
# What a sink takes

However a sink divides what it is offered and however often it is interrupted, what it takes of a
text is the beginning of it, as long as its room allows, and writing succeeds when that is all of
the text (`Sink.writeAll_outcome`). A single offer is taken apart once (`Sink.write_cases`); the
outcome of a run is then found by induction on its steps, of which there are enough.
-/

namespace LintReport.Sink

/-- The room of the sink is used up. -/
def Full (sink : Sink) : Prop := ∃ limit, sink.limit = some limit ∧ limit ≤ sink.data.length

/-- How many bytes of a text of some size the sink takes in the end. -/
def share (sink : Sink) (size : Nat) : Nat :=
  if sink.chunk = some 0 then 0
  else (sink.limit.map fun limit => min size (limit - sink.data.length)).getD size

/-- What no write changes: how the sink takes bytes, and what flushing has to do with. -/
structure Alike (before after : Sink) : Prop where
  chunk : after.chunk = before.chunk
  limit : after.limit = before.limit
  refusal : after.refusal = before.refusal
  failsFlush : after.failsFlush = before.failsFlush
  flushes : after.flushes = before.flushes

namespace Alike

theorem refl (sink : Sink) : Alike sink sink := ⟨rfl, rfl, rfl, rfl, rfl⟩

/-- What neither of two writes changes is not changed by both. -/
theorem trans {first second third : Sink} (earlier : Alike first second)
    (later : Alike second third) : Alike first third where
  chunk := later.chunk.trans earlier.chunk
  limit := later.limit.trans earlier.limit
  refusal := later.refusal.trans earlier.refusal
  failsFlush := later.failsFlush.trans earlier.failsFlush
  flushes := later.flushes.trans earlier.flushes

end Alike

/-- A sink never takes more than it is offered. -/
theorem share_le (sink : Sink) (size : Nat) : sink.share size ≤ size := by
  unfold share
  split
  · exact Nat.zero_le size
  · cases sink.limit with
    | none => exact Nat.le_refl size
    | some limit => exact Nat.min_le_left size _

/-- A full sink takes nothing. -/
theorem share_of_full {sink : Sink} (full : sink.Full) (size : Nat) : sink.share size = 0 := by
  obtain ⟨limit, bounded, used⟩ := full
  unfold share
  split
  · rfl
  · rw [bounded, Option.map_some, Option.getD_some, Nat.sub_eq_zero_of_le used, Nat.min_zero]

/-- **When a sink takes all of a text:** it takes something at a time and has room for all. -/
theorem share_eq_iff {sink : Sink} {size : Nat} :
    sink.share size = size ↔ size = 0 ∨ sink.chunk ≠ some 0 ∧
      ∀ limit, sink.limit = some limit → sink.data.length + size ≤ limit := by
  unfold share
  by_cases stuck : sink.chunk = some 0
  · simp only [stuck, ↓reduceIte, ne_eq, not_true_eq_false, false_and, or_false, eq_comm]
  · cases bounded : sink.limit with
    | none => simp [stuck]
    | some limit =>
        simp only [stuck, ↓reduceIte, Option.map_some, Option.getD_some, ne_eq, not_false_eq_true,
          Option.some.injEq, forall_eq', true_and]
        omega

/-- What is left of a text has the rest of the share. -/
theorem share_after {sink after : Sink} (alike : Alike sink after) {size taken : Nat}
    (grows : after.data.length = sink.data.length + taken) :
    after.share (size - taken) = sink.share size - taken := by
  unfold share
  rw [alike.chunk, alike.limit, grows]
  split
  · exact (Nat.zero_sub taken).symm
  · cases sink.limit with
    | none => rfl
    | some limit =>
        simp only [Option.map_some, Option.getD_some]
        omega

/-- Only a full sink has no room. -/
private theorem full_of_capacity? {sink : Sink} {offered : Nat}
    (used : sink.capacity? offered = none) : sink.Full := by
  unfold capacity? at used
  simp only at used
  split at used
  · cases used
  · next limit bounded =>
      split at used
      · next full => exact ⟨limit, bounded, full⟩
      · cases used

/-- The bytes that a sink would take at a time if its room were unlimited. -/
private theorem offered_at_once (chunk : Option Nat) (offered : Nat) :
    (chunk.map (min offered)).getD offered ≤ offered ∧
      ((chunk.map (min offered)).getD offered = 0 ↔ chunk = some 0 ∨ offered = 0) := by
  cases chunk with
  | none => simp
  | some most =>
      simp only [Option.map_some, Option.getD_some, Option.some.injEq]
      omega

/-- What is taken at once belongs to what is taken in the end. -/
private theorem share_of_capacity? {sink : Sink} {offered taken : Nat}
    (room : sink.capacity? offered = some taken) :
    taken ≤ sink.share offered ∧ (taken = 0 → sink.share offered = 0) := by
  obtain ⟨below, stuck⟩ := offered_at_once sink.chunk offered
  unfold capacity? at room
  unfold share
  generalize (sink.chunk.map (min offered)).getD offered = most at room below stuck
  cases bounded : sink.limit with
  | none =>
      simp only [bounded, Option.some.injEq] at room
      subst room
      split
      · next never => exact ⟨Nat.le_zero.mpr (stuck.mpr (.inl never)), fun _ => rfl⟩
      · next takes => exact ⟨below, fun nothing => (stuck.mp nothing).resolve_left takes⟩
  | some limit =>
      simp only [bounded] at room
      split at room
      · cases room
      · next left =>
          cases room
          simp only [Option.map_some, Option.getD_some]
          split
          · next never =>
              have nothing := stuck.mpr (.inl never)
              omega
          · next takes =>
              rw [or_iff_right takes] at stuck
              omega

/-- **What one offer does.** It is interrupted, refused for lack of room, or takes bytes from the
beginning, nothing only when nothing of the text will be taken at all. -/
theorem write_cases (sink : Sink) (bytes : List UInt8) :
    (∃ after, Outlet.write sink bytes = (.interrupted, after) ∧ Alike sink after ∧
      after.data = sink.data) ∨
    (∃ after, Outlet.write sink bytes = (.refused sink.refusal, after) ∧ Alike sink after ∧
      after.data = sink.data ∧ sink.Full) ∨
    ∃ taken after, Outlet.write sink bytes = (.took taken, after) ∧ Alike sink after ∧
      after.data = sink.data ++ bytes.take taken ∧
      taken ≤ sink.share bytes.length ∧ (taken = 0 → sink.share bytes.length = 0) := by
  rw [outlet_write]
  unfold write
  by_cases interrupted : 0 < sink.interrupts
  · exact .inl ⟨_, if_pos interrupted, ⟨rfl, rfl, rfl, rfl, rfl⟩, rfl⟩
  · refine .inr ?_
    simp only [if_neg interrupted]
    split
    · next used =>
        exact .inl ⟨_, rfl, ⟨rfl, rfl, rfl, rfl, rfl⟩, rfl, full_of_capacity? used⟩
    · next taken room =>
        exact .inr ⟨taken, _, rfl, ⟨rfl, rfl, rfl, rfl, rfl⟩, rfl, share_of_capacity? room⟩

/-- How offering bytes to a sink until all are taken ends. -/
structure Outcome (sink : Sink) (bytes : List UInt8) (ends : Except StreamError Unit × Sink) :
    Prop where
  data : ends.2.data = sink.data ++ bytes.take (sink.share bytes.length)
  alike : Alike sink ends.2
  succeeds_iff : ends.1 = .ok () ↔ sink.share bytes.length = bytes.length

namespace Outcome

variable {sink after : Sink} {bytes : List UInt8} {ends : Except StreamError Unit × Sink}

/-- Writing nothing succeeds and changes nothing. -/
theorem nil (sink : Sink) : Outcome sink [] (.ok (), sink) where
  data := by rw [List.take_nil, List.append_nil]
  alike := .refl sink
  succeeds_iff := by
    have nothing : sink.share ([] : List UInt8).length = 0 :=
      Nat.le_zero.mp (sink.share_le 0)
    exact iff_of_true rfl nothing

/-- Writing fails at once when the sink takes nothing of what is left. -/
theorem failed (error : StreamError) (alike : Alike sink after) (same : after.data = sink.data)
    (left : bytes ≠ []) (nothing : sink.share bytes.length = 0) :
    Outcome sink bytes (.error error, after) where
  data := by rw [nothing, List.take_zero, List.append_nil, same]
  alike := alike
  succeeds_iff := by
    refine iff_of_false (by rintro ⟨⟩) fun whole => left ?_
    exact List.length_eq_zero_iff.mp (whole.symm.trans nothing)

/-- **After an offer, the rest of the run is the run of what is left.** -/
theorem step {taken : Nat} (alike : Alike sink after)
    (grows : after.data = sink.data ++ bytes.take taken) (within : taken ≤ sink.share bytes.length)
    (rest : Outcome after (bytes.drop taken) ends) : Outcome sink bytes ends := by
  have fits : taken ≤ bytes.length := Nat.le_trans within (sink.share_le _)
  have longer : after.data.length = sink.data.length + taken := by
    rw [grows, List.length_append, List.length_take, Nat.min_eq_left fits]
  have left : after.share (bytes.drop taken).length = sink.share bytes.length - taken := by
    rw [List.length_drop]
    exact share_after alike longer
  refine ⟨?_, alike.trans rest.alike, ?_⟩
  · rw [rest.data, grows, left, List.append_assoc, ← List.take_add, Nat.add_sub_cancel' within]
  · rw [rest.succeeds_iff, left, List.length_drop]
    omega

end Outcome

/-- There are enough steps for every interruption and every byte. -/
theorem writeSteps_outcome (steps : Nat) : ∀ {sink : Sink} {bytes : List UInt8},
    Outlet.patience sink bytes < steps →
      Outcome sink bytes (Outlet.writeSteps steps sink bytes) := by
  induction steps with
  | zero => exact fun impossible => absurd impossible (Nat.not_lt_zero _)
  | succ steps ih =>
      intro sink bytes enough
      by_cases left : bytes = []
      · subst left
        exact .nil sink
      have fewer := Outlet.patience_write sink bytes
      rw [Outlet.writeSteps_succ steps sink left]
      rcases sink.write_cases bytes with ⟨after, writes, alike, same⟩ |
        ⟨after, writes, alike, same, full⟩ | ⟨taken, after, writes, alike, grows, within, stuck⟩
      · rw [writes] at fewer ⊢
        have kept : after.data = sink.data ++ bytes.take 0 := by
          rw [List.take_zero, List.append_nil, same]
        exact .step alike kept (Nat.zero_le _)
          (ih (Nat.lt_of_lt_of_le (fewer rfl) (Nat.lt_succ_iff.mp enough)))
      · rw [writes]
        exact .failed _ alike same left (share_of_full full _)
      · rw [writes] at fewer ⊢
        cases taken with
        | zero =>
            rw [List.take_zero, List.append_nil] at grows
            exact .failed _ alike grows left (stuck rfl)
        | succ taken =>
            exact .step alike grows within
              (ih (Nat.lt_of_lt_of_le (fewer rfl) (Nat.lt_succ_iff.mp enough)))

/-- **What becomes of a text that is written to a sink.** -/
theorem writeAll_outcome (sink : Sink) (bytes : List UInt8) :
    Outcome sink bytes (Outlet.writeAll sink bytes) := writeSteps_outcome _ (Nat.lt_succ_self _)

/-- The sink takes every text and can be flushed. It may be interrupted and may divide what it is
offered. -/
structure TakesAll (sink : Sink) : Prop where
  advances : sink.chunk ≠ some 0
  unlimited : sink.limit = none
  flushes : sink.failsFlush = false

/-- A sink that takes everything takes all that it is offered. -/
theorem TakesAll.share_eq {sink : Sink} (takes : sink.TakesAll) (size : Nat) :
    sink.share size = size := by
  apply share_eq_iff.mpr
  refine .inr ⟨takes.advances, fun limit bounded => ?_⟩
  rw [takes.unlimited] at bounded
  cases bounded

end LintReport.Sink
