import LintReport.Report.Outlet

/-!
# Sinks

A sink is an outlet of the simplest kind: a sequence of bytes that grows. It takes no more than so
many bytes at a time, is interrupted so many times first, has room for only so many bytes, and
either can be flushed or cannot.
-/

namespace LintReport

/-- A sink: the bytes it has taken, how many it takes at a time, how many it has room for and how
it refuses more, how often it will still be interrupted, whether it fails when it is flushed, and
how often it was offered bytes and was flushed. -/
structure Sink where
  data : List UInt8
  chunk : Option Nat
  limit : Option Nat
  refusal : StreamError
  interrupts : Nat
  failsFlush : Bool
  writes : Nat
  flushes : Nat
  deriving DecidableEq, Repr

namespace Sink

/-- A sink that takes everything. -/
def unbounded : Sink := ⟨[], none, none, .closed, 0, false, 0, 0⟩

/-- A sink that has no room at all. -/
def full : Sink := { unbounded with limit := some 0, refusal := .noSpace }

/-- How many of the offered bytes the sink takes, or none when its room is used up. -/
def capacity? (sink : Sink) (offered : Nat) : Option Nat :=
  let most := (sink.chunk.map (min offered)).getD offered
  match sink.limit with
  | none => some most
  | some limit => if limit ≤ sink.data.length then none else some (min most (limit - sink.data.length))

/-- Offers bytes once. -/
def write (sink : Sink) (bytes : List UInt8) : Answer × Sink :=
  if 0 < sink.interrupts then
    (.interrupted, { sink with writes := sink.writes + 1, interrupts := sink.interrupts - 1 })
  else
    match sink.capacity? bytes.length with
    | none => (.refused sink.refusal, { sink with writes := sink.writes + 1 })
    | some taken =>
      (.took taken,
        { sink with writes := sink.writes + 1, data := sink.data ++ bytes.take taken })

/-- Says that everything has been written. -/
def flush (sink : Sink) : Except StreamError Unit × Sink :=
  (if sink.failsFlush then .error .flushFailed else .ok (), { sink with flushes := sink.flushes + 1 })

/-- A sink takes no more than it is offered. -/
theorem capacity?_le {sink : Sink} {offered taken : Nat}
    (room : sink.capacity? offered = some taken) : taken ≤ offered := by
  have atOnce : (sink.chunk.map (min offered)).getD offered ≤ offered := by
    cases sink.chunk with
    | none => exact Nat.le_refl offered
    | some most => exact Nat.min_le_left offered most
  unfold capacity? at room
  simp only at room
  split at room
  · cases room
    exact atOnce
  · split at room
    · cases room
    · cases room
      exact Nat.le_trans (Nat.min_le_left _ _) atOnce

/-- The sink keeps the bytes that it takes, and an offer that is made again has used up an
interruption or is shorter. -/
theorem write_grows (sink : Sink) (bytes : List UInt8) :
    (sink.write bytes).1.count ≤ bytes.length ∧
    (sink.write bytes).2.data = sink.data ++ bytes.take (sink.write bytes).1.count ∧
    ((sink.write bytes).1.failure? = none →
      (sink.write bytes).2.interrupts + (bytes.drop (sink.write bytes).1.count).length <
        sink.interrupts + bytes.length) := by
  unfold write
  by_cases interrupted : 0 < sink.interrupts
  · rw [if_pos interrupted]
    refine ⟨Nat.zero_le _, (List.append_nil _).symm, fun _ => ?_⟩
    simp only [Answer.count, List.drop_zero]
    omega
  · rw [if_neg interrupted]
    cases room : sink.capacity? bytes.length with
    | none => exact ⟨Nat.zero_le _, (List.append_nil _).symm, by rintro ⟨⟩⟩
    | some taken =>
        have within := capacity?_le room
        refine ⟨within, rfl, fun again => ?_⟩
        cases taken with
        | zero => cases again
        | succ taken =>
            simp only [Answer.count, List.length_drop]
            omega

instance : Outlet Sink where
  data := data
  write := write
  flush := flush
  patience sink bytes := sink.interrupts + bytes.length
  count_le sink bytes := (sink.write_grows bytes).1
  data_write sink bytes := (sink.write_grows bytes).2.1
  data_flush _ := rfl
  patience_write sink bytes := (sink.write_grows bytes).2.2

/-- What a sink does as an outlet when bytes are offered. -/
theorem outlet_write (sink : Sink) (bytes : List UInt8) :
    Outlet.write sink bytes = sink.write bytes := rfl

/-- What a sink does as an outlet when it is flushed. -/
theorem outlet_flush (sink : Sink) : Outlet.flush sink = sink.flush := rfl

end Sink

end LintReport
