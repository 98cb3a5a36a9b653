import LintReport.Report.Error

/-!
# Outlets

A report is written to an outlet: anything that bytes can be offered to. An outlet may take fewer
bytes at a time than it is offered, may be interrupted, may refuse, and may fail when it is told
that everything has been written, each time in another way. Writing a whole text offers the rest of
it until all has been taken; an interruption is no failure, but taking nothing is.
-/

namespace LintReport

/-- What comes of offering bytes once: so many of them were taken, from the beginning, or none was,
because of an interruption or for good. -/
inductive Answer where
  | took (count : Nat)
  | interrupted
  | refused (error : StreamError)
  deriving DecidableEq, Repr

namespace Answer

/-- How many bytes were taken. -/
def count : Answer → Nat
  | took count => count
  | _ => 0

/-- Why no more bytes are offered, if that is so. -/
def failure? : Answer → Option StreamError
  | took 0 => some .noProgress
  | took (_ + 1) => none
  | interrupted => none
  | refused error => some error

end Answer

/-- What bytes can be written to. It holds the bytes that it has taken. How it answers is its own
matter, and may change with every offer; only it does not keep interrupting for ever, so there is a
bound on how often bytes have to be offered until they are taken or refused. -/
class Outlet (σ : Type) where
  data : σ → List UInt8
  write : σ → List UInt8 → Answer × σ
  flush : σ → Except StreamError Unit × σ
  patience : σ → List UInt8 → Nat
  count_le : ∀ sink bytes, (write sink bytes).1.count ≤ bytes.length
  data_write : ∀ sink bytes,
    data (write sink bytes).2 = data sink ++ bytes.take (write sink bytes).1.count
  data_flush : ∀ sink, data (flush sink).2 = data sink
  patience_write : ∀ sink bytes, (write sink bytes).1.failure? = none →
    patience (write sink bytes).2 (bytes.drop (write sink bytes).1.count) < patience sink bytes

namespace Outlet

variable {σ : Type} [Outlet σ]

/-- Offers bytes until all have been taken or there are none left to try. The steps bound the
offers. -/
def writeSteps : (steps : Nat) → σ → List UInt8 → Except StreamError Unit × σ
  | _, sink, [] => (.ok (), sink)
  | 0, sink, _ :: _ => (.error .noProgress, sink)
  | steps + 1, sink, byte :: more =>
    let (answer, sink) := write sink (byte :: more)
    match answer.failure? with
    | some error => (.error error, sink)
    | none => writeSteps steps sink ((byte :: more).drop answer.count)

/-- Writes all bytes. -/
def writeAll (sink : σ) (bytes : List UInt8) : Except StreamError Unit × σ :=
  writeSteps (patience sink bytes + 1) sink bytes

/-- Writes all bytes and then says that everything has been written, unless something was not
taken. -/
def deliver (sink : σ) (bytes : List UInt8) : Except StreamError Unit × σ :=
  match writeAll sink bytes with
  | (.error error, sink) => (.error error, sink)
  | (.ok (), sink) => flush sink

end Outlet

end LintReport
