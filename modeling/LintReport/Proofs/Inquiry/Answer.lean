import LintReport.Inquiry.World

/-!
# What is seen of a run

Of a run one sees its result, the standard output and the messages; events go to the log
(`Transcript.seen`). A log filter does not change what is seen (`World.seen_keepNotes`). Most parts
of a run are silent: they only ask and note. Of a silent part the rest of the run sees nothing but
the result (`World.seen_bind`), so a run can be followed from one part to the next.
-/

namespace LintReport

variable {α β : Type}

/-- What is seen of a run: all but its events. -/
def Transcript.seen (transcript : Transcript α) : α × Sink × List String :=
  (transcript.result, transcript.output, transcript.messages)

/-- To say what is seen of a run is to say its result, its output and its messages. -/
theorem Transcript.seen_eq {transcript : Transcript α} {result : α} {output : Sink}
    {messages : List String} : transcript.seen = (result, output, messages) ↔
      transcript.result = result ∧ transcript.output = output ∧
        transcript.messages = messages := by
  rw [seen, Prod.mk.injEq, Prod.mk.injEq]

/-- Two runs are seen alike when they agree in all but their events. -/
theorem Transcript.seen_inj {first second : Transcript α} : first.seen = second.seen ↔
    first.result = second.result ∧ first.output = second.output ∧
      first.messages = second.messages :=
  seen_eq

/-- A message is seen in front of the others. -/
theorem Transcript.seen_after_message (text : String) (transcript : Transcript α) :
    (transcript.after (.message text)).seen =
      (transcript.seen.1, transcript.seen.2.1, text :: transcript.seen.2.2) := rfl

namespace Inquiry

/-- The run writes no text and tells no message, whatever it is answered. -/
inductive Silent : Inquiry α → Prop
  | done (result : α) : Silent (done result)
  | isFile {path : Path} {next : Bool → Inquiry α} (each : ∀ answer, Silent (next answer)) :
      Silent (isFile path next)
  | read {source : Source} {next : Except StreamError String → Inquiry α}
      (each : ∀ answer, Silent (next answer)) : Silent (read source next)
  | directory {next : Except StreamError Path → Inquiry α}
      (each : ∀ answer, Silent (next answer)) : Silent (directory next)
  | home {next : Option Path → Inquiry α} (each : ∀ answer, Silent (next answer)) :
      Silent (home next)
  | note {event : Event} {next : Inquiry α} (rest : Silent next) : Silent (note event next)

namespace Silent

/-- Silent parts in a row are silent. -/
theorem bind {inquiry : Inquiry α} {more : α → Inquiry β} (silent : inquiry.Silent)
    (rest : ∀ result, (more result).Silent) : (inquiry >>= more).Silent := by
  induction silent with
  | done result => exact rest result
  | isFile _ ih => exact .isFile ih
  | read _ ih => exact .read ih
  | directory _ ih => exact .directory ih
  | home _ ih => exact .home ih
  | note _ ih => exact .note ih

theorem pure (result : α) : (Pure.pure result : Inquiry α).Silent := .done result

theorem askFile (path : Path) : (Inquiry.askFile path).Silent := .isFile fun answer => .done answer

theorem askText (source : Source) : (Inquiry.askText source).Silent :=
  .read fun answer => .done answer

theorem askDirectory : Inquiry.askDirectory.Silent := .directory fun answer => .done answer

theorem askHome : Inquiry.askHome.Silent := .home fun answer => .done answer

/-- Noting events is silent. -/
theorem noteAll (events : List Event) : (Inquiry.noteAll events).Silent := by
  induction events with
  | nil => exact .done ()
  | cons event events ih => exact .note ih

end Silent

end Inquiry

namespace World

@[simp] theorem seen_pure (world : World) (result : α) :
    (world.answer (pure result)).seen = (result, world.output, []) := rfl

/-- **A silent part of a run is seen through its result only.** -/
theorem seen_bind {inquiry : Inquiry α} (silent : inquiry.Silent) (world : World)
    (more : α → Inquiry β) :
    (world.answer (inquiry >>= more)).seen =
      (world.answer (more (world.answer inquiry).result)).seen := by
  induction silent with
  | done result => rfl
  | isFile _ ih => exact ih _
  | read _ ih => exact ih _
  | directory _ ih => exact ih _
  | home _ ih => exact ih _
  | note _ ih => exact ih

/-- Behind a silent part a run goes on from its result. -/
theorem result_bind {inquiry : Inquiry α} (silent : inquiry.Silent) (world : World)
    (more : α → Inquiry β) :
    (world.answer (inquiry >>= more)).result =
      (world.answer (more (world.answer inquiry).result)).result :=
  congrArg Prod.fst (seen_bind silent world more)

@[simp] theorem result_pure (world : World) (result : α) :
    (world.answer (pure result)).result = result := rfl

/-- Asking for a file gives what the world says of it. -/
theorem result_askFile (world : World) (path : Path) :
    (world.answer (Inquiry.askFile path)).result = world.isFile path := rfl

/-- Noting events does not change the result. -/
theorem result_noteAll (world : World) (events : List Event) (more : Unit → Inquiry β) :
    (world.answer (Inquiry.noteAll events >>= more)).result = (world.answer (more ())).result :=
  result_bind (.noteAll events) world more

theorem result_askText (world : World) (source : Source) :
    (world.answer (Inquiry.askText source)).result = world.readText source := rfl

/-- A file that holds the bytes of a text is read as that text. -/
theorem readText_of_readFile {world : World} {path : Path} {text : String}
    (held : world.readFile path = .ok (utf8Bytes text)) :
    world.readText (.file path) = .ok text := by
  have read : world.readText (.file path) = decodeText (utf8Bytes text) :=
    congrArg (Except.bind · decodeText) held
  rw [read, decodeText, ofUtf8Bytes?_utf8Bytes]

/-- Of any part of a run the rest sees the result and what became of the standard output, and its
messages come first. -/
theorem seen_andThen (inquiry : Inquiry α) (more : α → Inquiry β) :
    ∀ (world : World) {result : α} {output : Sink} {told : List String},
    (world.answer inquiry).seen = (result, output, told) →
    let rest := (answer { world with output } (more result)).seen
    (world.answer (inquiry >>= more)).seen = (rest.1, rest.2.1, told ++ rest.2.2) := by
  -- Printing changes the world, so the induction is for all worlds.
  induction inquiry with
  | done result =>
      rintro world _ _ _ ⟨⟩
      rfl
  | isFile path next ih => exact fun world => ih _ world
  | read source next ih => exact fun world => ih _ world
  | directory next ih => exact fun world => ih _ world
  | home next ih => exact fun world => ih _ world
  | print text next ih => exact fun world => ih _ _
  | tell text next ih =>
      rintro world _ _ _ ⟨⟩
      exact congrArg (fun seen => (seen.1, seen.2.1, text :: seen.2.2)) (ih world rfl)
  | note event next ih => exact fun world => ih world

/-- Notes are not seen. -/
theorem seen_noteAll (world : World) (events : List Event) (more : Unit → Inquiry β) :
    (world.answer (Inquiry.noteAll events >>= more)).seen = (world.answer (more ())).seen :=
  seen_bind (.noteAll events) world more

/-- A message that is told is seen in front of what follows. -/
theorem seen_tellText (world : World) (text : String) (more : Unit → Inquiry β) :
    (world.answer (Inquiry.tellText text >>= more)).seen =
      ((world.answer (more ())).after (.message text)).seen := rfl

/-- A text that is printed goes to the standard output, which says what became of it. -/
theorem seen_printText (world : World) (text : String)
    (more : Except StreamError Unit → Inquiry β) :
    (world.answer (Inquiry.printText text >>= more)).seen =
      (answer { world with output := (Outlet.deliver world.output (utf8Bytes text)).2 }
        (more (Outlet.deliver world.output (utf8Bytes text)).1)).seen := rfl

/-- **A log filter is not seen.** -/
theorem seen_keepNotes (keep : Event → Bool) (inquiry : Inquiry α) : ∀ world : World,
    (world.answer (inquiry.keepNotes keep)).seen = (world.answer inquiry).seen := by
  induction inquiry with
  | done result => exact fun _ => rfl
  | isFile path next ih => exact fun world => ih _ world
  | read source next ih => exact fun world => ih _ world
  | directory next ih => exact fun world => ih _ world
  | home next ih => exact fun world => ih _ world
  | print text next ih => exact fun world => ih _ _
  | tell text next ih =>
      intro world
      unfold Inquiry.keepNotes answer
      rw [Transcript.seen_after_message, Transcript.seen_after_message, ih]
  | note event next ih =>
      intro world
      unfold Inquiry.keepNotes
      split
      · exact ih world
      · exact ih world

end World

end LintReport
