import LintReport.Proofs.Json.Visible
import LintReport.Proofs.Text.Pieces
import LintReport.Proofs.Text.Utf8
import LintReport.Proofs.Report.Delivery

/-!
# Sessions

A session reports batches to one outlet, one after the other, up to the first that fails. However
the outlet answers, it then holds the texts of the batches that it took whole, in order, and behind
them a beginning of the text of the batch that it did not (`Reporter.session_data`). The text of a
batch in JSON is one line, since control characters are escaped in it; so every line of the outlet
that ends is a whole batch (`Reporter.session_lines`).
-/

namespace LintReport

variable {σ : Type}

/-- A batch in a session: its records, the outlet that it met, and how reporting it ended. -/
structure Turn (σ : Type) where
  records : List Record
  before : σ
  delivery : Delivery σ

/-- The outlet after some turns. -/
def Turn.sinkAfter (sink : σ) : List (Turn σ) → σ
  | [] => sink
  | turn :: more => sinkAfter turn.delivery.sink more

namespace Reporter

variable [Outlet σ]

/-- Reports batches to one outlet, one after the other, up to the first that fails. -/
def session (reporter : Reporter) : List (List Record) → σ → List (Turn σ)
  | [], _ => []
  | records :: more, sink =>
    let delivery := reporter.deliver records sink
    ⟨records, sink, delivery⟩ ::
      match delivery.result with
      | .ok _ => session reporter more delivery.sink
      | .error _ => []

instance (reporter : Reporter) (records : List Record) : Decidable (reporter.PassesOver records) :=
  decidable_of_iff _ suppresses_iff

/-- The batch was not passed over, and the outlet took its whole text. -/
def Completes (reporter : Reporter) (turn : Turn σ) : Prop :=
  ¬ reporter.PassesOver turn.records ∧
    Outlet.data turn.delivery.sink =
      Outlet.data turn.before ++ utf8Bytes (reporter.render turn.records)

instance (reporter : Reporter) (turn : Turn σ) : Decidable (reporter.Completes turn) :=
  inferInstanceAs (Decidable (_ ∧ _))

/-- The batch was not passed over and failed, since the outlet took only these bytes from the
beginning of its text. -/
structure CutsShort (reporter : Reporter) (turn : Turn σ) (taken : List UInt8) : Prop where
  reports : ¬ reporter.PassesOver turn.records
  starts : taken <+: utf8Bytes (reporter.render turn.records)
  part : taken ≠ utf8Bytes (reporter.render turn.records)
  data : Outlet.data turn.delivery.sink = Outlet.data turn.before ++ taken
  fails : ∃ error, turn.delivery.result = .error (.output error)

/-- Of a batch that was cut short the outlet did not take the whole text. -/
theorem CutsShort.not_completes {reporter : Reporter} {turn : Turn σ} {taken : List UInt8}
    (cut : reporter.CutsShort turn taken) : ¬ reporter.Completes turn :=
  fun complete => cut.part (List.append_cancel_left (cut.data.symm.trans complete.2))

/-- A session goes on after a batch that is delivered. -/
theorem session_of_ok {reporter : Reporter} {records : List Record} {sink : σ} {tally : Tally}
    (succeeds : (reporter.deliver records sink).result = .ok tally) (more : List (List Record)) :
    reporter.session (records :: more) sink = ⟨records, sink, reporter.deliver records sink⟩ ::
      reporter.session more (reporter.deliver records sink).sink := by
  simp only [session, succeeds]

/-- A session ends with a batch that fails. -/
theorem session_of_error {reporter : Reporter} {records : List Record} {sink : σ}
    {error : ReportError} (fails : (reporter.deliver records sink).result = .error error)
    (more : List (List Record)) :
    reporter.session (records :: more) sink =
      [⟨records, sink, reporter.deliver records sink⟩] := by
  simp only [session, fails]

/-- A session reports its batches in order, and it stops early only when one fails. -/
theorem session_turns (reporter : Reporter) (batches : List (List Record)) :
    ∀ sink : σ,
      (∀ turn ∈ reporter.session batches sink,
        turn.delivery = reporter.deliver turn.records turn.before) ∧
      ∃ left, batches = (reporter.session batches sink).map Turn.records ++ left ∧
        (left = [] ∨ ∃ earlier last error, reporter.session batches sink = earlier ++ [last] ∧
          last.delivery.result = .error error) := by
  induction batches with
  | nil => exact fun _ => ⟨List.forall_mem_nil _, [], rfl, .inl rfl⟩
  | cons records batches ih =>
      intro sink
      cases result : (reporter.deliver records sink).result with
      | ok tally =>
          obtain ⟨each, left, all, ends⟩ := ih (reporter.deliver records sink).sink
          rw [session_of_ok result]
          refine ⟨List.forall_mem_cons.mpr ⟨rfl, each⟩, left, congrArg (records :: ·) all,
            ends.imp_right ?_⟩
          rintro ⟨earlier, last, error, turns, fails⟩
          exact ⟨_ :: earlier, last, error, congrArg (_ :: ·) turns, fails⟩
      | error error =>
          rw [session_of_error result]
          exact ⟨List.forall_mem_singleton.mpr rfl, batches, rfl,
            .inr ⟨[], _, error, rfl, result⟩⟩

/-- **What one turn does.** The batch is passed over, or the outlet takes its whole text, or it
takes only the beginning of it and the batch fails. -/
theorem turn_cases (reporter : Reporter) (records : List Record) (sink : σ) :
    let turn : Turn σ := ⟨records, sink, reporter.deliver records sink⟩
    (¬ reporter.Completes turn ∧ turn.delivery.sink = sink ∧
      ∃ tally, turn.delivery.result = .ok tally) ∨
    reporter.Completes turn ∨ ∃ taken, reporter.CutsShort turn taken := by
  intro turn
  by_cases passes : reporter.PassesOver records
  · obtain ⟨same, result, _⟩ := deliver_of_passesOver passes sink
    exact .inl ⟨fun complete => complete.1 passes, same, _, result⟩
  · refine .inr ?_
    -- Whether the whole text was taken decides, and not the result: an outlet that took all may
    -- still fail when it is flushed.
    obtain ⟨reaches, result, _⟩ := deliver_of_not_passesOver passes sink
    obtain ⟨taken, starts, data, fails⟩ :=
      Outlet.deliver_takes sink (utf8Bytes (reporter.render records))
    rw [← reaches] at data
    by_cases whole : taken = utf8Bytes (reporter.render records)
    · exact .inl ⟨passes, whole ▸ data⟩
    · obtain ⟨error, ends⟩ := fails whole
      rw [ends] at result
      exact .inr ⟨taken, passes, starts, whole, data, error, result⟩

/-- **What a session leaves in the outlet:** the texts of the batches that the outlet took whole,
and behind them what it took of a last batch that failed. -/
theorem session_data (reporter : Reporter) (batches : List (List Record)) :
    ∀ sink : σ, ∃ rest,
      Outlet.data (Turn.sinkAfter sink (reporter.session batches sink)) =
        Outlet.data sink ++ (((reporter.session batches sink).filter (reporter.Completes ·)).flatMap
          (fun turn => utf8Bytes (reporter.render turn.records)) ++ rest) ∧
      (rest = [] ∨ ∃ earlier last, reporter.session batches sink = earlier ++ [last] ∧
        reporter.CutsShort last rest) := by
  induction batches with
  | nil =>
      intro sink
      exact ⟨[], (List.append_nil _).symm, .inl rfl⟩
  | cons records batches ih =>
      intro sink
      let turn : Turn σ := ⟨records, sink, reporter.deliver records sink⟩
      have onward {tally : Tally} (succeeds : turn.delivery.result = .ok tally) :
          reporter.session (records :: batches) sink =
            turn :: reporter.session batches turn.delivery.sink := session_of_ok succeeds batches
      have stops {error : ReportError} (fails : turn.delivery.result = .error error) :
          reporter.session (records :: batches) sink = [turn] := session_of_error fails batches
      rcases reporter.turn_cases records sink with ⟨partly, same, tally, succeeds⟩ | complete |
        ⟨taken, cut⟩
      · obtain ⟨rest, data, ends⟩ := ih turn.delivery.sink
        rw [onward succeeds, List.filter_cons_of_neg (by simpa using partly)]
        refine ⟨rest, data.trans ?_, ends.imp_right ?_⟩
        · rw [show turn.delivery.sink = sink from same]
        · rintro ⟨earlier, last, turns, cut⟩
          exact ⟨turn :: earlier, last, congrArg (turn :: ·) turns, cut⟩
      · have grows := complete.2
        -- The session goes on, or the outlet could not be flushed and the session ends with a line.
        cases result : turn.delivery.result with
        | ok tally =>
            obtain ⟨rest, data, ends⟩ := ih turn.delivery.sink
            rw [onward result, List.filter_cons_of_pos (by simpa using complete),
              List.flatMap_cons]
            refine ⟨rest, data.trans ?_, ends.imp_right ?_⟩
            · rw [grows, List.append_assoc, List.append_assoc]
            · rintro ⟨earlier, last, turns, cut⟩
              exact ⟨turn :: earlier, last, congrArg (turn :: ·) turns, cut⟩
        | error error =>
            rw [stops result, List.filter_cons_of_pos (by simpa using complete)]
            refine ⟨[], ?_, .inl rfl⟩
            rw [List.filter_nil, List.flatMap_singleton, List.append_nil]
            exact grows
      · obtain ⟨error, fails⟩ := cut.fails
        have partly := cut.not_completes
        rw [stops fails, List.filter_cons_of_neg (by simpa using partly)]
        exact ⟨taken, cut.data, .inr ⟨[], turn, rfl, cut⟩⟩

/-- The text of a batch in JSON, without the line feed at its end. -/
def line (reporter : Reporter) (records : List Record) : String :=
  (Json.list ((reporter.collect records).map Finding.toJson)).render

/-- A line has no control characters. -/
theorem le_of_mem_line {reporter : Reporter} {records : List Record} {byte : UInt8}
    (member : byte ∈ utf8Bytes (reporter.line records)) : 0x20 ≤ byte := by
  refine le_of_mem_utf8Bytes ?_ member
  unfold line Json.render
  rw [String.toList_ofList]
  exact Json.visible_write _

/-- In JSON a batch is written as its line and a line feed. -/
theorem utf8Bytes_render {reporter : Reporter} (json : reporter.renderer = .json)
    (records : List Record) :
    utf8Bytes (reporter.render records) = utf8Bytes (reporter.line records) ++ [10] := by
  have text : reporter.render records = reporter.line records ++ "\n" := by
    rw [render, json]
    exact String.ofList_append
  rw [text, utf8Bytes_append]
  rfl

/-- **A line in the outlet is a batch.** After a session in JSON, begun with an empty outlet of any
kind, the bytes of the outlet between line feeds are the texts of the batches that it took whole, in
order. Behind the last line feed stands nothing, or what the outlet took of the batch with which the
session failed. No other control character stands anywhere. -/
theorem session_lines {reporter : Reporter} (json : reporter.renderer = .json)
    (batches : List (List Record)) {sink : σ} (fresh : Outlet.data sink = []) :
    let turns := reporter.session batches sink
    let data := Outlet.data (Turn.sinkAfter sink turns)
    (∀ turn ∈ turns, turn.delivery = reporter.deliver turn.records turn.before) ∧
    (∃ left, batches = turns.map Turn.records ++ left ∧
      (left = [] ∨ ∃ earlier last error, turns = earlier ++ [last] ∧
        last.delivery.result = .error error)) ∧
    ∃ rest : List UInt8,
      data.splitOn 10 = (turns.filter (reporter.Completes ·)).map
        (fun turn => utf8Bytes (reporter.line turn.records)) ++ [rest] ∧
      (rest = [] ∨
        ∃ earlier last, turns = earlier ++ [last] ∧ reporter.CutsShort last rest) ∧
      ∀ byte ∈ data, byte < 0x20 → byte = 10 := by
  intro turns data
  obtain ⟨rest, holds, ends⟩ := reporter.session_data batches sink
  let lines := (turns.filter (reporter.Completes ·)).map
    fun turn => utf8Bytes (reporter.line turn.records)
  have framed : data = lines.flatMap (· ++ [10]) ++ rest := by
    rw [fresh, List.nil_append] at holds
    refine holds.trans (congrArg (· ++ rest) ?_)
    rw [List.flatMap_map]
    simp only [utf8Bytes_render json]
    rfl
  have visible : ∀ line ∈ lines, ∀ byte ∈ line, 0x20 ≤ byte := by
    intro line member byte inside
    obtain ⟨turn, _, rfl⟩ := List.mem_map.mp member
    exact le_of_mem_line inside
  -- The text of the failed batch ends with its only line feed, which was not taken.
  have visibleRest : ∀ byte ∈ rest, 0x20 ≤ byte := by
    intro byte member
    rcases ends with rfl | ⟨_, last, _, cut⟩
    · cases member
    · have starts := cut.starts
      have part := cut.part
      rw [utf8Bytes_render json] at starts part
      have within := (List.prefix_concat_iff.mp starts).resolve_left part
      exact le_of_mem_line (within.subset member)
  have noFeed {bytes : List UInt8} (high : ∀ byte ∈ bytes, 0x20 ≤ byte) : 10 ∉ bytes :=
    fun member => absurd (high 10 member) (by decide)
  obtain ⟨each, all⟩ := reporter.session_turns batches sink
  refine ⟨each, all, rest, ?_, ends, ?_⟩
  · rw [framed]
    exact Text.splitOn_flatMap (fun line member => noFeed (visible line member)) (noFeed visibleRest)
  · intro byte member control
    rw [framed] at member
    have low {bytes : List UInt8} (high : ∀ byte ∈ bytes, 0x20 ≤ byte) : byte ∉ bytes :=
      fun inside => absurd (high byte inside) (UInt8.not_le.mpr control)
    rcases List.mem_append.mp member with inside | inside
    · obtain ⟨line, present, inside⟩ := List.mem_flatMap.mp inside
      rcases List.mem_append.mp inside with inside | inside
      · exact absurd inside (low (visible line present))
      · exact List.mem_singleton.mp inside
    · exact absurd inside (low visibleRest)

end Reporter

/-- No more than so many bytes are taken. -/
def Answer.atMost (most : Nat) : Answer → Answer
  | took count => took (min count most)
  | interrupted => interrupted
  | refused error => refused error

/-- What is taken of bytes is no more than there are. -/
theorem Answer.count_atMost_le (most : Nat) (answer : Answer) :
    (answer.atMost most).count ≤ most := by
  cases answer with
  | took count => exact Nat.min_le_right count most
  | interrupted | refused _ => exact Nat.zero_le most

/-- An outlet that is told beforehand how to answer each offer and how each flush ends. When it has
not been told, it refuses an offer and can be flushed. -/
structure Scripted where
  data : List UInt8
  answers : List Answer
  flushes : List (Except StreamError Unit)

namespace Scripted

/-- Offers bytes once. -/
def write (sink : Scripted) (bytes : List UInt8) : Answer × Scripted :=
  match sink.answers with
  | [] => (.refused .closed, sink)
  | answer :: answers =>
    let answer := answer.atMost bytes.length
    (answer, { sink with data := sink.data ++ bytes.take answer.count, answers })

/-- Says that everything has been written. -/
def flush (sink : Scripted) : Except StreamError Unit × Scripted :=
  match sink.flushes with
  | [] => (.ok (), sink)
  | ends :: flushes => (ends, { sink with flushes })

/-- Every offer that is made again has used up an answer. -/
theorem write_grows (sink : Scripted) (bytes : List UInt8) :
    (sink.write bytes).1.count ≤ bytes.length ∧
    (sink.write bytes).2.data = sink.data ++ bytes.take (sink.write bytes).1.count ∧
    ((sink.write bytes).1.failure? = none →
      (sink.write bytes).2.answers.length < sink.answers.length) := by
  obtain ⟨data, answers, flushes⟩ := sink
  cases answers with
  | nil => exact ⟨Nat.zero_le _, (List.append_nil _).symm, by rintro ⟨⟩⟩
  | cons answer answers =>
      exact ⟨answer.count_atMost_le bytes.length, rfl, fun _ => Nat.lt_succ_self _⟩

/-- A flush takes nothing. -/
theorem data_flush (sink : Scripted) : sink.flush.2.data = sink.data := by
  obtain ⟨data, answers, flushes⟩ := sink
  cases flushes <;> rfl

instance : Outlet Scripted where
  data := data
  write := write
  flush := flush
  patience sink _ := sink.answers.length
  count_le sink bytes := (sink.write_grows bytes).1
  data_write sink bytes := (sink.write_grows bytes).2.1
  data_flush := data_flush
  patience_write sink bytes := (sink.write_grows bytes).2.2

end Scripted

namespace Reporter

/-- Two quiet sessions of the same four batches, of which the first and the third have no problems
and are passed over. A sink has room for only a part of the last. An outlet that takes pieces of
several sizes and is interrupted between batches takes all, but fails when it is flushed the second
time. -/
theorem session_lines_cut :
    let clean : List Record := [.ofFinding (.atPosition 1 0)]
    let noisy : List Record :=
      [.ofFinding ((Finding.atPosition 2 0).attach "code" (.string "E\n\x01"))]
    let reporter : Reporter := .ofOptions ⟨true, true, .json⟩
    let batches := [clean, noisy, clean, noisy]
    let line := utf8Bytes (reporter.line noisy)
    let narrow : Sink := ⟨[], some 3, some 60, .closed, 1, false, 0, 0⟩
    let moody : Scripted :=
      ⟨[], [.interrupted, .took 7, .took 50, .interrupted, .took 1, .interrupted, .took 50],
        [.ok (), .error .flushFailed]⟩
    let cut := reporter.session batches narrow
    let unflushed := reporter.session batches moody
    reporter.renderer = .json ∧ narrow.data = [] ∧ moody.data = [] ∧
    (∃ rest, (Turn.sinkAfter narrow cut).data.splitOn 10 = [line, rest] ∧ rest ≠ [] ∧
      ∃ last ∈ cut, reporter.CutsShort last rest) ∧
    (Turn.sinkAfter moody unflushed).data.splitOn 10 = [line, line, []] ∧
    unflushed.map (·.delivery.result.isOk) = [true, true, true, false] := by
  intro clean noisy reporter batches line narrow moody cut unflushed
  have json : reporter.renderer = .json := rfl
  refine ⟨json, rfl, rfl, ?_, ?_, by decide +kernel⟩
  · have whole : (cut.filter (reporter.Completes ·)).map
        (fun turn => utf8Bytes (reporter.line turn.records)) = [line] := by decide +kernel
    have filled : (Turn.sinkAfter narrow cut).data.splitOn 10 ≠ [line, []] := by decide +kernel
    obtain ⟨_, _, rest, lines, ends, _⟩ :=
      session_lines json batches (show Outlet.data narrow = [] from rfl)
    rw [whole] at lines
    have left : rest ≠ [] := by
      rintro rfl
      exact filled lines
    obtain ⟨earlier, last, split, short⟩ := ends.resolve_left left
    have member : last ∈ cut := by
      rw [show cut = earlier ++ [last] from split]
      exact List.mem_append_right _ List.mem_cons_self
    exact ⟨rest, lines, left, last, member, short⟩
  · have whole : (unflushed.filter (reporter.Completes ·)).map
        (fun turn => utf8Bytes (reporter.line turn.records)) = [line, line] := by decide +kernel
    have complete : ∀ turn ∈ unflushed,
        reporter.PassesOver turn.records ∨ reporter.Completes turn := by decide +kernel
    obtain ⟨_, _, rest, lines, ends, _⟩ :=
      session_lines json batches (show Outlet.data moody = [] from rfl)
    rw [whole] at lines
    rcases ends with rfl | ⟨earlier, last, split, short⟩
    · exact lines
    · have member : last ∈ unflushed := by
        rw [show unflushed = earlier ++ [last] from split]
        exact List.mem_append_right _ List.mem_cons_self
      exact absurd ((complete last member).resolve_left short.reports) short.not_completes

end Reporter

end LintReport
