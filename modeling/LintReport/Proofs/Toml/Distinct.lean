import LintReport.Toml.Document
import LintReport.Proofs.Steps

/-!
# The keys of a document are distinct

A table of a document has each of its keys once, however it came about: under a header, by dotted
keys or between braces (`Toml.Distinct`). Every way to put tables together keeps this: changing the
table at the end of a path (`Toml.yields_descend`), adding a line to the current table, beginning
the table of the next header. So it holds of whatever reading a text gives
(`Toml.distinct_of_parse`).
-/

namespace LintReport.Toml

open Steps (Yields)

/-- The names of the keys of a table, in order. -/
def Entries.names (entries : Entries) : List String := entries.map (·.1.name)

/-- Every table in a value has each of its keys once. -/
inductive Distinct : Toml → Prop
  | string (span : Span) (s : String) : Distinct (.string span s)
  | integer (span : Span) (n : Int) : Distinct (.integer span n)
  | real (span : Span) (x : Real) : Distinct (.real span x)
  | boolean (span : Span) (b : Bool) : Distinct (.boolean span b)
  | moment (span : Span) : Distinct (.moment span)
  | array {span : Span} {items : List Toml} (each : ∀ item ∈ items, Distinct item) :
      Distinct (.array span items)
  | table {shape : Shape} {span : Option Span} {entries : Entries} (keys : entries.names.Nodup)
      (each : ∀ entry ∈ entries, Distinct entry.2) : Distinct (.table shape span entries)
  | tables {items : List Toml} (each : ∀ item ∈ items, Distinct item) : Distinct (.tables items)

/-- The keys of a table are distinct, and so are those of all tables in it. -/
structure Entries.Distinct (entries : Entries) : Prop where
  keys : entries.names.Nodup
  each : ∀ entry ∈ entries, entry.2.Distinct

/-- The keys of a table are distinct when those of its entries are. -/
theorem distinct_table {shape : Shape} {span : Option Span} {entries : Entries} :
    (table shape span entries).Distinct ↔ Entries.Distinct entries := by
  constructor
  · intro distinct
    cases distinct with
    | table keys each => exact ⟨keys, each⟩
  · rintro ⟨keys, each⟩
    exact .table keys each

theorem distinct_tables {items : List Toml} :
    (tables items).Distinct ↔ ∀ item ∈ items, item.Distinct := by
  constructor
  · intro distinct
    cases distinct with
    | tables each => exact each
  · exact .tables

namespace Entries

variable {entries : Entries}

theorem Distinct.nil : Distinct [] := ⟨List.nodup_nil, fun _ member => nomatch member⟩

theorem get?_cons (entry : Key × Toml) (rest : Entries) (name : String) :
    get? (entry :: rest) name = if entry.1.name = name then some entry.2 else get? rest name := by
  unfold get?
  rw [List.find?_cons]
  by_cases same : entry.1.name = name
  · simp only [same, decide_true, Option.map_some, ↓reduceIte]
  · simp only [same, decide_false, ↓reduceIte]

theorem mem_of_get? {name : String} {value : Toml} (found : get? entries name = some value) :
    ∃ key, (key, value) ∈ entries ∧ key.name = name := by
  obtain ⟨⟨key, other⟩, stands, rfl⟩ := Option.map_eq_some_iff.mp found
  have named := List.find?_some stands
  exact ⟨key, List.mem_of_find?_eq_some stands, of_decide_eq_true named⟩

theorem get?_eq_none {name : String} : get? entries name = none ↔ name ∉ names entries := by
  unfold get? names
  rw [Option.map_eq_none_iff, List.find?_eq_none]
  simp only [decide_eq_true_eq, List.mem_map, not_exists, not_and]

/-- What is found among entries with distinct keys has distinct keys. -/
theorem Distinct.get? {name : String} {value : Toml} (distinct : Distinct entries)
    (found : get? entries name = some value) : value.Distinct := by
  obtain ⟨key, member, _⟩ := mem_of_get? found
  exact distinct.each _ member

/-- The keys after one is set: the same keys, the new one last if it is new. -/
theorem names_put (key : Key) (value : Toml) (entries : Entries) :
    names (put key value entries) =
      if key.name ∈ names entries then names entries else names entries ++ [key.name] := by
  induction entries with
  | nil => rfl
  | cons entry rest ih =>
      by_cases same : entry.1.name = key.name
      · simp [put, names, same]
      · simp only [names] at ih
        simp only [put, names, same, ↓reduceIte, List.map_cons, ih, List.mem_cons, Ne.symm same,
          false_or]
        by_cases present : key.name ∈ rest.map (·.1.name) <;> simp [present]

/-- Putting a value brings in no other one. -/
theorem mem_put {key : Key} {value : Toml} {entry : Key × Toml}
    (member : entry ∈ put key value entries) : entry ∈ entries ∨ entry.2 = value := by
  induction entries with
  | nil =>
      cases List.mem_singleton.mp member
      exact .inr rfl
  | cons first rest ih =>
      unfold put at member
      split at member
      · rcases List.mem_cons.mp member with rfl | later
        · exact .inr rfl
        · exact .inl (List.mem_cons_of_mem first later)
      · rcases List.mem_cons.mp member with rfl | later
        · exact .inl List.mem_cons_self
        · exact (ih later).imp_left (List.mem_cons_of_mem first)

theorem Distinct.put {key : Key} {value : Toml} (distinct : Distinct entries)
    (inner : value.Distinct) : Distinct (put key value entries) := by
  constructor
  · rw [names_put]
    split
    · exact distinct.keys
    · next absent =>
        rw [List.nodup_append]
        refine ⟨distinct.keys, by simp, ?_⟩
        rintro name member last final rfl
        cases List.mem_singleton.mp final
        exact absent member
  · intro entry member
    rcases mem_put member with old | same
    · exact distinct.each entry old
    · rw [same]
      exact inner

theorem Distinct.erase (distinct : Distinct entries) (name : String) :
    Distinct (erase name entries) where
  keys := distinct.keys.sublist (List.filter_sublist.map _)
  each entry member := distinct.each entry (List.mem_filter.mp member).1

end Entries

/-! ## Changing tables -/

variable {change : Shape → Entries → Except Fault Entries}

/-- A change of a table that keeps keys distinct. -/
def Keeps (change : Shape → Entries → Except Fault Entries) : Prop :=
  ∀ shape entries, Entries.Distinct entries → Yields Entries.Distinct (change shape entries)

/-- Changing the last table of a run keeps keys distinct. -/
theorem yields_changeLast (keeps : Keeps change) : ∀ items : List Toml,
    (∀ item ∈ items, item.Distinct) →
    Yields (fun items => ∀ item ∈ items, item.Distinct) (changeLast change items) := by
  intro items
  fun_induction changeLast change items with
  | case1 => exact fun _ => .error _
  | case2 shape span entries =>
      intro each
      have inner := distinct_table.mp (each _ (List.mem_singleton_self _))
      refine (keeps shape entries inner).bind fun changed distinct => .ok ?_
      intro item member
      cases List.mem_singleton.mp member
      exact distinct_table.mpr distinct
  | case3 item noTable => exact fun _ => .error _
  | case4 item more noTable several ih =>
      intro each
      obtain ⟨here, later⟩ := List.forall_mem_cons.mp each
      exact (ih later).bind fun changed distinct =>
        .ok (List.forall_mem_cons.mpr ⟨here, distinct⟩)

/-- **Changing the table at the end of a path keeps keys distinct.** -/
theorem yields_descend (keeps : Keeps change) (entry : Entry) (place : Span) :
    ∀ path, Keeps (descend entry place change path) := by
  intro path
  induction path with
  | nil => exact keeps
  | cons key path ih =>
      intro shape entries distinct
      unfold descend
      split
      · exact (ih entry.shape [] .nil).bind fun inner within =>
          .ok (distinct.put (distinct_table.mpr within))
      · next shape span inner found =>
          split
          · have stands := distinct_table.mp (distinct.get? found)
            exact (ih shape inner stands).bind fun changed within =>
              .ok (distinct.put (distinct_table.mpr within))
          · exact .error _
      · next items found =>
          have stands := distinct_tables.mp (distinct.get? found)
          exact (yields_changeLast ih items stands).bind fun changed within =>
            .ok (distinct.put (distinct_tables.mpr within))
      · exact .error _

/-- Adding a value to a table keeps keys distinct. -/
theorem keeps_addTo {value : Toml} (inner : value.Distinct) (table : Option (List String))
    (place : Span) (dotted : Bool) (key : Key) : Keeps (addTo table place dotted key value) := by
  intro shape entries distinct
  unfold addTo
  split
  · exact .error _
  · split
    · exact .error _
    · exact .ok (distinct.put inner)

theorem keeps_addValue {value : Toml} (inner : value.Distinct) (entry : Entry)
    (table : Option (List String)) (place : Span) (path : List Key) (key : Key) :
    Keeps (addValue entry table place path key value) :=
  yields_descend (keeps_addTo inner table place _ key) entry place path

namespace Assembly

/-- All tables that have been put together so far have distinct keys. -/
structure Distinct (assembly : Assembly) : Prop where
  root : Entries.Distinct assembly.root
  current : Entries.Distinct assembly.current

theorem Distinct.empty : Distinct empty := ⟨.nil, .nil⟩

theorem keeps_addToRun {table : Toml} (inner : table.Distinct) (key : Key) :
    Keeps (addToRun key table) := by
  intro shape entries distinct
  unfold addToRun
  split
  · apply Yields.ok (distinct.put (distinct_tables.mpr _))
    simpa only [List.mem_singleton, forall_eq] using inner
  · next items found =>
      have stands := distinct_tables.mp (distinct.get? found)
      apply Yields.ok (distinct.put (distinct_tables.mpr _))
      intro item member
      rcases List.mem_append.mp member with old | last
      · exact stands item old
      · rw [List.mem_singleton.mp last]
        exact inner
  · exact .error _

theorem keeps_addTable {table : Toml} (inner : table.Distinct) (key : Key) :
    Keeps (addTable key table) := fun _ _ distinct => .ok (distinct.put inner)

theorem keeps_checkRun (key : Key) : Keeps (checkRun key) := by
  intro shape entries distinct
  unfold checkRun
  split
  · exact .ok distinct
  · exact .ok distinct
  · exact .error _

theorem keeps_takeImplied (key : Key) : Keeps (takeImplied key) := by
  intro shape entries distinct
  unfold takeImplied
  split
  · exact .ok distinct
  · exact .ok (distinct.erase key.name)
  · exact .error _

variable {assembly : Assembly}

/-- A finished document has distinct keys. -/
theorem Distinct.finish (distinct : assembly.Distinct) :
    Yields Entries.Distinct assembly.finish := by
  have table : (Toml.table .headed assembly.span assembly.current).Distinct :=
    distinct_table.mpr distinct.current
  unfold Assembly.finish
  split
  · exact .ok distinct.current
  · next key _ =>
      refine yields_descend ?_ .header nowhere _ .headed _ distinct.root
      split
      · exact keeps_addToRun table key
      · exact keeps_addTable table key

/-- What stands under a path is a table of the document. -/
theorem distinct_lookUp (path : List Key) : ∀ {entries : Entries}, Entries.Distinct entries →
    Entries.Distinct (lookUp path entries) := by
  induction path with
  | nil => exact fun distinct => distinct
  | cons key path ih =>
      intro entries distinct
      unfold lookUp
      split
      · next shape span inner found => exact ih (distinct_table.mp (distinct.get? found))
      · next items found =>
          split
          · next shape span inner last =>
              have stands := distinct_tables.mp (distinct.get? found)
              exact ih (distinct_table.mp (stands _ (List.mem_of_getLast? last)))
          · exact .nil
      · exact .nil

/-- A header of a table keeps keys distinct. -/
theorem Distinct.startTable (distinct : assembly.Distinct) (path : List Key) (span : Span) :
    Yields Distinct (assembly.startTable path span) := by
  refine distinct.finish.bind fun root complete => ?_
  split
  · exact .error _
  · next key _ =>
      refine (yields_descend (keeps_takeImplied key) .header nowhere _ .headed _ complete).bind
        fun taken rest => .ok ⟨rest, distinct_lookUp path complete⟩

theorem Distinct.startInRun (distinct : assembly.Distinct) (path : List Key) (span : Span) :
    Yields Distinct (assembly.startInRun path span) := by
  refine distinct.finish.bind fun root complete => ?_
  split
  · exact .error _
  · next key _ =>
      refine (yields_descend (keeps_checkRun key) .header nowhere _ .headed _ complete).bind
        fun checked rest => .ok ⟨rest, .nil⟩

/-- A line with a value keeps keys distinct. -/
theorem Distinct.addLine (distinct : assembly.Distinct) {value : Toml} (inner : value.Distinct)
    (place : Span) (path : List Key) (key : Key) :
    Yields Distinct (assembly.addLine place path key value) :=
  (keeps_addValue inner .dotted _ place path key .headed _ distinct.current).bind
    fun _ added => .ok ⟨distinct.root, added⟩

end Assembly

/-! ## Reading -/

/-- A reader whose values have distinct keys. -/
def Gives (item : Reader Toml) : Prop := ∀ text, Yields (fun read => read.1.Distinct) (item text)

theorem yields_readDecimal (negative : Bool) (make : List Char → Span) (text : List Char) :
    Yields (fun read => read.1.Distinct) (readDecimal negative make text) := by
  refine (Yields.any _).bind fun ⟨whole, afterWhole⟩ _ => ?_
  refine (Yields.any _).bind fun ⟨fraction, afterFraction⟩ _ => ?_
  refine (Yields.any _).bind fun ⟨exponent, rest⟩ _ => ?_
  dsimp only
  split
  · exact (Yields.any _).bind fun n _ => .ok (.integer _ n)
  · exact (Yields.any _).bind fun x _ => .ok (.real _ x)

theorem yields_readInBase (base : Nat) (make : List Char → Span) (text : List Char) :
    Yields (fun read => read.1.Distinct) (readInBase base make text) :=
  (Yields.any _).bind fun _ _ => (Yields.any _).bind fun n _ => .ok (.integer _ n)

theorem yields_readRealWord (negative : Bool) (make : List Char → Span) (text : List Char) :
    Yields (fun read => read.1.Distinct) (readRealWord negative make text) := by
  unfold readRealWord
  split
  · exact .ok (.real _ _)
  · exact .ok (.real _ _)
  · exact .error _

/-- A numeral has no keys to repeat. -/
theorem gives_readNumeral : Gives readNumeral := by
  intro text
  unfold readNumeral
  dsimp only
  split
  · exact (Yields.any _).map fun rest _ => .moment _
  · split
    · exact (Yields.any _).map fun rest _ => .moment _
    · split
      · exact yields_readInBase 16 _ _
      · exact yields_readInBase 8 _ _
      · exact yields_readInBase 2 _ _
      · split
        · exact .error _
        · split
          · exact yields_readDecimal _ _ _
          · exact yields_readRealWord _ _ _

section Inside

variable {item : Reader Toml} (gives : Gives item)
include gives

/-- Items that are read have distinct keys when each of them has. -/
theorem yields_readItems (steps : Nat) : ∀ (before : List Toml) (text : List Char),
    (∀ item ∈ before, item.Distinct) →
    Yields (fun read => ∀ item ∈ read.1, item.Distinct) (readItems item steps before text) := by
  induction steps with
  | zero => exact fun _ _ _ => .error _
  | succ steps ih =>
      intro before text each
      have turned {items : List Toml} (each : ∀ item ∈ items, item.Distinct) :
          ∀ item ∈ items.reverse, item.Distinct :=
        fun item member => each item (List.mem_reverse.mp member)
      unfold readItems
      split
      · exact .ok (turned each)
      · refine (gives _).bind fun ⟨value, rest⟩ distinct => ?_
        have further := List.forall_mem_cons.mpr ⟨distinct, each⟩
        dsimp only
        split
        · exact ih _ _ further
        · exact .ok (turned further)
        · exact .error _

theorem yields_readPair (text : List Char) :
    Yields (fun read => read.1.2.Distinct) (readPair item text) := by
  refine (Yields.any _).bind fun ⟨keys, afterKeys⟩ _ => ?_
  refine (Yields.any _).bind fun afterMark _ => ?_
  exact (gives _).bind fun ⟨value, rest⟩ distinct => .ok distinct

theorem yields_readPairs (steps : Nat) : ∀ (before : List (List Key × Toml)) (text : List Char),
    (∀ pair ∈ before, pair.2.Distinct) →
    Yields (fun read => ∀ pair ∈ read.1, pair.2.Distinct) (readPairs item steps before text) := by
  induction steps with
  | zero => exact fun _ _ _ => .error _
  | succ steps ih =>
      intro before text each
      refine (yields_readPair gives text).bind fun ⟨pair, rest⟩ distinct => ?_
      have further : ∀ given ∈ pair :: before, given.2.Distinct :=
        List.forall_mem_cons.mpr ⟨distinct, each⟩
      have turned : ∀ given ∈ (pair :: before).reverse, given.2.Distinct :=
        fun given member => further given (List.mem_reverse.mp member)
      dsimp only
      split
      · split
        · exact ih _ _ further
        · exact .ok turned
      · exact .ok turned

omit gives in
/-- Pairs between braces are collected without repeating a key. -/
theorem yields_collect (place : Span) (pairs : List (List Key × Toml))
    (each : ∀ pair ∈ pairs, pair.2.Distinct) : Yields Entries.Distinct (collect place pairs) := by
  unfold collect
  generalize start : ([] : Entries) = entries
  have distinct : Entries.Distinct entries := start ▸ .nil
  clear start
  induction pairs generalizing entries with
  | nil => exact .ok distinct
  | cons pair pairs ih =>
      obtain ⟨here, later⟩ := List.forall_mem_cons.mp each
      rw [List.foldlM_cons]
      refine (?_ : Yields Entries.Distinct _).bind fun more within => ih later more within
      split
      · exact .error _
      · next key _ => exact keeps_addValue here .braced none place _ key .braced _ distinct

/-- A table between braces has distinct keys. -/
theorem yields_readBraced (text : List Char) :
    Yields (fun read => Entries.Distinct read.1) (readBraced item text) := by
  have nothing : ∀ pair ∈ ([] : List (List Key × Toml)), pair.2.Distinct :=
    fun _ member => nomatch member
  unfold readBraced
  dsimp only
  split
  · refine (yields_readPairs gives _ [] _ nothing).bind ?_
    rintro ⟨pairs, rest⟩ each
    refine (yields_collect _ pairs each).bind fun entries distinct => ?_
    split
    · exact .ok distinct
    · exact .error _
  · rw [Steps.ok_bind]
    refine (yields_collect _ [] nothing).bind fun entries distinct => ?_
    split
    · exact .ok distinct
    · exact .error _

end Inside

theorem yields_readWord {make : Span → Toml} (each : ∀ span, (make span).Distinct)
    (word text : List Char) : Yields (fun read => read.1.Distinct) (readWord word text make) := by
  unfold readWord
  split
  · exact .ok (each _)
  · exact .error _

/-- A value has distinct keys when those one level deeper have. -/
theorem gives_readValue_of_inner (depth : Nat)
    (inner : ∀ below, depth = below + 1 → Gives (readValue below)) : Gives (readValue depth) := by
  intro text
  cases text with
  | nil =>
      rw [readValue]
      exact .error _
  | cons c rest =>
      unfold readValue
      dsimp only
      split
      · exact (Yields.any _).bind fun ⟨s, left⟩ _ => .ok (.string _ s)
      · split
        · cases depth with
          | zero => exact .error _
          | succ depth =>
              have none : ∀ item ∈ ([] : List Toml), item.Distinct := fun _ member => nomatch member
              exact (yields_readItems (inner depth rfl) _ [] rest none).bind
                fun ⟨items, left⟩ each => .ok (.array each)
        · split
          · cases depth with
            | zero => exact .error _
            | succ depth =>
                exact (yields_readBraced (inner depth rfl) rest).bind
                  fun ⟨entries, left⟩ distinct => .ok (distinct_table.mpr distinct)
          · split
            · exact yields_readWord (fun span => .boolean span true) _ _
            · split
              · exact yields_readWord (fun span => .boolean span false) _ _
              · exact gives_readNumeral _

/-- **Values are read with distinct keys**, however deep they are nested. -/
theorem gives_readValue (depth : Nat) : Gives (readValue depth) := by
  induction depth with
  | zero => exact gives_readValue_of_inner 0 fun below impossible => nomatch impossible
  | succ depth ih =>
      apply gives_readValue_of_inner
      rintro below ⟨⟩
      exact ih

theorem yields_readHeader {assembly : Assembly} (distinct : assembly.Distinct)
    (text rest : List Char) :
    Yields (fun read => read.1.Distinct) (readHeader text rest assembly) := by
  refine (Yields.any _).bind fun ⟨path, afterPath⟩ _ => ?_
  refine (Yields.any _).bind fun afterMark _ => (Yields.any _).bind fun left _ => ?_
  exact (distinct.startTable path _).bind fun started further => .ok further

theorem yields_readRunHeader {assembly : Assembly} (distinct : assembly.Distinct)
    (text rest : List Char) :
    Yields (fun read => read.1.Distinct) (readRunHeader text rest assembly) := by
  refine (Yields.any _).bind fun ⟨path, afterPath⟩ _ => ?_
  refine (Yields.any _).bind fun afterMark _ => (Yields.any _).bind fun afterMarks _ => ?_
  refine (Yields.any _).bind fun left _ => ?_
  exact (distinct.startInRun path _).bind fun started further => .ok further

theorem yields_readEntry {assembly : Assembly} (distinct : assembly.Distinct) (text : List Char) :
    Yields (fun read => read.1.Distinct) (readEntry text assembly) := by
  refine (yields_readPair (gives_readValue _) text).bind fun ⟨⟨keys, value⟩, afterValue⟩ inner => ?_
  refine (Yields.any _).bind fun left _ => ?_
  dsimp only
  split
  · exact .error _
  · next key _ =>
      exact (distinct.addLine inner _ _ key).bind fun added further => .ok further

/-- A line keeps keys distinct. -/
theorem yields_readLine {assembly : Assembly} (distinct : assembly.Distinct) (text : List Char) :
    Yields (fun read => read.1.Distinct) (readLine text assembly) := by
  unfold readLine
  split
  · exact yields_readRunHeader distinct _ _
  · exact yields_readHeader distinct _ _
  · exact (Yields.any _).map fun _ _ => distinct
  · split
    · exact .ok distinct
    · exact yields_readEntry distinct text

/-- So do all lines. -/
theorem yields_readLines (steps : Nat) : ∀ (text : List Char) {assembly : Assembly},
    assembly.Distinct → Yields Assembly.Distinct (readLines steps text assembly) := by
  induction steps with
  | zero => exact fun _ _ _ => .error _
  | succ steps ih =>
      intro text assembly distinct
      unfold readLines
      split
      · exact .ok distinct
      · exact (yields_readLine distinct _).bind fun ⟨further, rest⟩ kept => ih rest kept

/-- **The keys of a document are distinct**, at every depth. -/
theorem distinct_of_parse {text : List Char} {entries : Entries} (reads : parse text = .ok entries) :
    Entries.Distinct entries :=
  (yields_readLines _ _ .empty).bind (fun _ complete => complete.finish) entries reads

end LintReport.Toml
