import Mathlib
import LintReport.Settings.Parse
import LintReport.Proofs.Toml.Datum

/-!
# What settings depend on

Of a document, settings depend on four values only, and on these only for what they say
(`Settings.Named`, `Settings.SaidBy`): it does not matter what else the document holds, in which
order its keys stand, or in which notation its tables are written. A key is given once, so the table
that is read entry by entry gives each setting what its own key says (`Settings.taken_cons`).
-/

namespace LintReport

open Toml (Entries)

/-! ## Single values -/

namespace Datum

/-- Nothing: an array or a table without entries. -/
def IsNothing (value : Datum) : Prop := value = .array [] ∨ value = .empty

/-- A format: its word, or the table in which only that word has a value, which is nothing. -/
def IsFormat (value : Datum) (format : Format) : Prop :=
  value = .string format.word ∨ ∃ inner : Datum, inner.IsNothing ∧ value = .single format.word inner

end Datum

namespace Format

/-- A word names a format only as the word of that format. -/
theorem ofWord?_eq_some {name : String} {format : Format} :
    ofWord? name = some format ↔ name = format.word := by
  constructor
  · intro found
    unfold ofWord? at found
    split at found <;> cases found <;> rfl
  · rintro rfl
    exact ofWord?_word format

end Format

namespace Toml

/-- Saying where an objection stands does not change what is given. -/
theorem within_eq_ok {α : Type} {span : Option Span} {result : Except Objection α} {given : α} :
    within span result = .ok given ↔ result = .ok given := Steps.mapError_eq_ok

/-- A value is taken as a truth value exactly when it is one. -/
theorem asBoolean_eq_ok {value : Toml} {b : Bool} :
    value.asBoolean = .ok b ↔ value.datum = .boolean b := by
  cases value <;> simp only [asBoolean, datum, Except.ok.injEq, Datum.boolean.injEq, reduceCtorEq]

theorem asText_eq_ok {value : Toml} {s : String} :
    value.asText = .ok s ↔ value.datum = .string s := by
  cases value <;> simp only [asText, datum, Except.ok.injEq, Datum.string.injEq, reduceCtorEq]

theorem asNothing_eq_ok {value : Toml} : value.asNothing = .ok () ↔ value.datum.IsNothing := by
  unfold Datum.IsNothing
  cases value with
  | array span items =>
      simp only [asNothing, datum, Datum.empty, Datum.array.injEq, itemData_eq_nil, reduceCtorEq,
        or_false]
      cases items <;> simp
  | tables items =>
      simp only [asNothing, datum, Datum.empty, Datum.array.injEq, itemData_eq_nil, reduceCtorEq,
        or_false]
      cases items <;> simp
  | table shape span entries =>
      rw [datum_table_eq_empty]
      cases entries <;> simp [asNothing, datum]
  | _ => simp only [asNothing, datum, Datum.empty, reduceCtorEq, or_self]

/-- A format is named by its word. -/
theorem formatNamed_eq_ok {name : String} {span : Span} {format : Format} :
    formatNamed name span = .ok format ↔ name = format.word := by
  rw [← Format.ofWord?_eq_some]
  unfold formatNamed
  split
  · next found named => simp only [named, Except.ok.injEq, Option.some.injEq]
  · next unnamed => simp only [unnamed, reduceCtorEq]

/-- A table is a format when its only entry has the name of the format and holds nothing. -/
theorem isFormat_table {shape : Shape} {span : Option Span} {entries : Entries}
    (keys : entries.names.Nodup) {format : Format} :
    (table shape span entries).datum.IsFormat format ↔
      ∃ key inner, entries = [(key, inner)] ∧ key.name = format.word ∧ inner.datum.IsNothing := by
  constructor
  · rintro (impossible | ⟨said, nothing, same⟩)
    · cases impossible
    · obtain ⟨key, inner, one, named, rfl⟩ := (datum_table_eq_single keys).mp same
      exact ⟨key, inner, one, named, nothing⟩
  · rintro ⟨key, inner, one, named, nothing⟩
    exact .inr ⟨inner.datum, nothing, (datum_table_eq_single keys).mpr ⟨key, inner, one, named, rfl⟩⟩

/-- A format is read from every value that says it. -/
theorem asFormat_eq_ok {value : Toml} (distinct : value.Distinct) {format : Format} :
    value.asFormat = .ok format ↔ value.datum.IsFormat format := by
  unfold asFormat
  rw [within_eq_ok]
  cases value with
  | string span name =>
      simp only [formatNamed_eq_ok, datum, Datum.IsFormat, Datum.string.injEq, Datum.single,
        reduceCtorEq, and_false, exists_false, or_false]
  | table shape span entries =>
      rw [isFormat_table (distinct_table.mp distinct).keys]
      rcases entries with _ | ⟨⟨key, inner⟩, _ | ⟨second, more⟩⟩
      · simp
      · simp only [Steps.bind_eq_ok, formatNamed_eq_ok, asNothing_eq_ok.symm]
        constructor
        · rintro ⟨found, named, ⟨⟩, nothing, ⟨⟩⟩
          exact ⟨key, inner, rfl, named, nothing⟩
        · rintro ⟨_, _, ⟨⟩, named, nothing⟩
          exact ⟨format, named, (), nothing, rfl⟩
      · simp
  | _ =>
      simp only [datum, Datum.IsFormat, Datum.single, reduceCtorEq, and_false, exists_false,
        or_self]

end Toml

/-! ## Tables of settings -/

namespace Settings

variable {α β : Type}

/-- What a setting is after a table of settings: if its key has a value there, then what that is
read as, else what it was before. -/
def Taken (reads : β → α → Prop) (before : α) : Option β → α → Prop
  | none, after => after = before
  | some value, after => reads value after

/-- It is the same to take a value that was changed and to take it in another way. -/
theorem taken_map {γ : Type} {f : β → γ} {reads : γ → α → Prop} {before after : α}
    {value? : Option β} :
    Taken reads before (value?.map f) after ↔
      Taken (fun value => reads (f value)) before value? after := by
  cases value? <;> rfl

/-- A value may be taken in any way that agrees on it. -/
theorem taken_congr {reads other : β → α → Prop} {before after : α} {value? : Option β}
    (agree : ∀ value, value? = some value → (reads value after ↔ other value after)) :
    Taken reads before value? after ↔ Taken other before value? after := by
  cases value? with
  | none => rfl
  | some value => exact agree value rfl

/-- The value that one entry gives to a name. -/
def given (entry : Toml.Key × Toml) (name : String) : Option Toml :=
  if entry.1.name = name then some entry.2 else none

/-- Since a key is given once, a setting is what the first entry makes of it, or what the rest
does. -/
theorem taken_cons {reads : Toml → α → Prop} {before after : α} {entry : Toml.Key × Toml}
    {rest : Entries} (fresh : entry.1.name ∉ rest.names) (name : String) :
    Taken reads before (Entries.get? (entry :: rest) name) after ↔
      ∃ between, Taken reads before (given entry name) between ∧
        Taken reads between (rest.get? name) after := by
  rw [Entries.get?_cons, given]
  by_cases same : entry.1.name = name
  · have later : rest.get? name = none := Entries.get?_eq_none.mpr (same ▸ fresh)
    simp only [same, ↓reduceIte, later, Taken, exists_eq_right']
  · simp only [same, ↓reduceIte, Taken, exists_eq_left]

/-- **A table is read entry by entry as by its keys**, if this is so of a table of one entry, and
the keys of a longer one are looked up in its first entry and then in the others. -/
theorem foldlM_eq_ok {step : α → Toml.Key × Toml → Except Objection α}
    {follow : (String → Option Toml) → α → α → Prop}
    (nothing : ∀ before after, follow (fun _ => none) before after ↔ after = before)
    (one : ∀ entry before after, step before entry = .ok after ↔ follow (given entry) before after)
    (more : ∀ (entry : Toml.Key × Toml) (rest : Entries), entry.1.name ∉ rest.names →
      ∀ before after, follow (Entries.get? (entry :: rest)) before after ↔
        ∃ between, follow (given entry) before between ∧ follow rest.get? between after)
    {entries : Entries} (keys : entries.names.Nodup) (before after : α) :
    entries.foldlM step before = .ok after ↔ follow entries.get? before after := by
  induction entries generalizing before with
  | nil =>
      rw [List.foldlM_nil, Steps.pure_eq_ok, Except.ok.injEq, eq_comm]
      exact (nothing before after).symm
  | cons entry rest ih =>
      obtain ⟨fresh, later⟩ := List.nodup_cons.mp keys
      rw [List.foldlM_cons, Steps.bind_eq_ok, more entry rest fresh]
      exact exists_congr fun between => and_congr (one entry before between) (ih later between)

end Settings

open Settings (Taken given taken_cons)

namespace ReportSettings

/-- Report settings before and after a table whose keys have these values. -/
@[mk_iff]
structure Follow (value? : String → Option Toml) (before after : ReportSettings) : Prop where
  sort : Taken (fun value sort => value.asBoolean = .ok sort) before.sort (value? "sort") after.sort
  format : Taken (fun value format => value.asFormat = .ok format) before.format (value? "format")
    after.format
  quiet : Taken (fun value quiet => value.asBoolean = .ok quiet) before.quiet (value? "quiet")
    after.quiet

theorem withEntry_eq_ok (entry : Toml.Key × Toml) (before after : ReportSettings) :
    before.withEntry entry = .ok after ↔ Follow (given entry) before after := by
  cases after with
  | mk sort format quiet =>
      unfold withEntry
      rw [Toml.within_eq_ok, follow_iff]
      split
      · next named =>
          simp only [Steps.map_eq_ok, given, named, Taken, mk.injEq, ↓reduceIte, String.reduceEq]
          grind
      · next named =>
          simp only [Steps.map_eq_ok, given, named, Taken, mk.injEq, ↓reduceIte, String.reduceEq]
          grind
      · next named =>
          simp only [Steps.map_eq_ok, given, named, Taken, mk.injEq, ↓reduceIte, String.reduceEq]
          grind
      · next noSort noFormat noQuiet =>
          simp only [Except.ok.injEq, given, Taken]
          grind [cases ReportSettings]

/-- Entries with distinct keys are read one after the other as all of them at once. -/
theorem foldlM_withEntry_eq_ok {entries : Entries} (keys : entries.names.Nodup)
    (before after : ReportSettings) :
    entries.foldlM withEntry before = .ok after ↔ Follow entries.get? before after := by
  refine Settings.foldlM_eq_ok ?_ withEntry_eq_ok ?_ keys before after
  · intro before after
    cases before
    cases after
    simp only [follow_iff, Taken, mk.injEq]
  · intro entry rest fresh before after
    constructor
    · rintro ⟨sort, format, quiet⟩
      obtain ⟨sort', sort₁, sort₂⟩ := (taken_cons fresh _).mp sort
      obtain ⟨format', format₁, format₂⟩ := (taken_cons fresh _).mp format
      obtain ⟨quiet', quiet₁, quiet₂⟩ := (taken_cons fresh _).mp quiet
      exact ⟨⟨sort', format', quiet'⟩, ⟨sort₁, format₁, quiet₁⟩, sort₂, format₂, quiet₂⟩
    · rintro ⟨between, ⟨sort₁, format₁, quiet₁⟩, sort₂, format₂, quiet₂⟩
      exact ⟨(taken_cons fresh _).mpr ⟨_, sort₁, sort₂⟩,
        (taken_cons fresh _).mpr ⟨_, format₁, format₂⟩,
        (taken_cons fresh _).mpr ⟨_, quiet₁, quiet₂⟩⟩

end ReportSettings

namespace UpdateSettings

/-- Update settings before and after a table whose key has this value. -/
@[mk_iff]
structure Follow (value? : String → Option Toml) (before after : UpdateSettings) : Prop where
  manifest : Taken (fun value manifest => value.asText.map some = .ok manifest) before.manifest
    (value? "manifest") after.manifest

theorem withEntry_eq_ok (entry : Toml.Key × Toml) (before after : UpdateSettings) :
    before.withEntry entry = .ok after ↔ Follow (given entry) before after := by
  cases after with
  | mk manifest =>
      unfold withEntry
      rw [Toml.within_eq_ok, follow_iff]
      split
      · next named =>
          simp only [Steps.map_eq_ok, given, named, Taken, mk.injEq, ↓reduceIte]
      · next noManifest =>
          simp only [Except.ok.injEq, given, Taken]
          grind [cases UpdateSettings]

theorem foldlM_withEntry_eq_ok {entries : Entries} (keys : entries.names.Nodup)
    (before after : UpdateSettings) :
    entries.foldlM withEntry before = .ok after ↔ Follow entries.get? before after := by
  refine Settings.foldlM_eq_ok ?_ withEntry_eq_ok ?_ keys before after
  · intro before after
    cases before
    cases after
    simp only [follow_iff, Taken, mk.injEq]
  · intro entry rest fresh before after
    constructor
    · rintro ⟨manifest⟩
      obtain ⟨manifest', first, others⟩ := (taken_cons fresh _).mp manifest
      exact ⟨⟨manifest'⟩, ⟨first⟩, ⟨others⟩⟩
    · rintro ⟨between, ⟨first⟩, ⟨others⟩⟩
      exact ⟨(taken_cons fresh _).mpr ⟨_, first, others⟩⟩

end UpdateSettings

namespace Settings

/-- Settings before and after a table whose keys have these values. -/
@[mk_iff]
structure Follow (value? : String → Option Toml) (before after : Settings) : Prop where
  report : Taken (fun value report => ReportSettings.ofToml value = .ok report) before.report
    (value? "report") after.report
  update : Taken (fun value update => UpdateSettings.ofToml value = .ok update) before.update
    (value? "update") after.update

theorem withEntry_eq_ok (entry : Toml.Key × Toml) (before after : Settings) :
    before.withEntry entry = .ok after ↔ Follow (given entry) before after := by
  cases after with
  | mk report update =>
      unfold withEntry
      rw [Toml.within_eq_ok, follow_iff]
      split
      · next named =>
          simp only [Steps.map_eq_ok, given, named, Taken, mk.injEq, ↓reduceIte, String.reduceEq]
          grind
      · next named =>
          simp only [Steps.map_eq_ok, given, named, Taken, mk.injEq, ↓reduceIte, String.reduceEq]
          grind
      · next noReport noUpdate =>
          simp only [Except.ok.injEq, given, Taken]
          grind [cases Settings]

/-- The settings of a document follow its entries. -/
theorem ofEntries_eq_ok {entries : Entries} (keys : entries.names.Nodup) (settings : Settings) :
    ofEntries entries = .ok settings ↔ Follow entries.get? default settings := by
  refine foldlM_eq_ok ?_ withEntry_eq_ok ?_ keys default settings
  · intro before after
    cases before
    cases after
    simp only [follow_iff, Taken, mk.injEq]
  · intro entry rest fresh before after
    constructor
    · rintro ⟨report, update⟩
      obtain ⟨report', report₁, report₂⟩ := (taken_cons fresh _).mp report
      obtain ⟨update', update₁, update₂⟩ := (taken_cons fresh _).mp update
      exact ⟨⟨report', update'⟩, ⟨report₁, update₁⟩, report₂, update₂⟩
    · rintro ⟨between, ⟨report₁, update₁⟩, report₂, update₂⟩
      exact ⟨(taken_cons fresh _).mpr ⟨_, report₁, report₂⟩,
        (taken_cons fresh _).mpr ⟨_, update₁, update₂⟩⟩

/-! ## Documents -/

/-- What a document says of a key of one of its tables. -/
def said (entries : Entries) (table key : String) : Option Datum :=
  (entries.get? table).bind fun value => value.datum.member? key

/-- What a document says of the four values that settings are read from. -/
structure Named where
  sort : Option Datum
  format : Option Datum
  quiet : Option Datum
  manifest : Option Datum

/-- The four values as a document has them. -/
def Named.of (entries : Entries) : Named where
  sort := said entries "report" "sort"
  format := said entries "report" "format"
  quiet := said entries "report" "quiet"
  manifest := said entries "update" "manifest"

/-- Settings are as the four values say, and as they are by default where these are silent. -/
structure SaidBy (named : Named) (settings : Settings) : Prop where
  sort : Taken (fun value sort => value = .boolean sort) default.report.sort named.sort
    settings.report.sort
  format : Taken Datum.IsFormat default.report.format named.format settings.report.format
  quiet : Taken (fun value quiet => value = .boolean quiet) default.report.quiet named.quiet
    settings.report.quiet
  manifest : Taken (fun value manifest => ∃ s, value = .string s ∧ some s = manifest)
    default.update.manifest named.manifest settings.update.manifest

end Settings

namespace Toml

/-- A table, however it is written. -/
inductive IsTable : Toml → Prop
  | table (shape : Shape) (span : Option Span) (entries : Entries) :
      IsTable (.table shape span entries)

end Toml

namespace Settings

/-- The two tables that settings are read from are tables where they are there. -/
structure Sectioned (entries : Entries) : Prop where
  report : ∀ value, entries.get? "report" = some value → value.IsTable
  update : ∀ value, entries.get? "update" = some value → value.IsTable

variable {entries : Entries}

/-- Nothing is said in a table that is not there. -/
theorem said_of_none {table : String} (absent : entries.get? table = none) (key : String) :
    said entries table key = none := by
  rw [said, absent, Option.bind_none]

/-- What is said in a table is what stands there. -/
theorem said_of_table {table : String} {shape : Toml.Shape} {span : Option Toml.Span}
    {inner : Entries} (found : entries.get? table = some (.table shape span inner)) (key : String) :
    said entries table key = (inner.get? key).map Toml.datum := by
  rw [said, found, Option.bind_some, Toml.member?_datum_table]

/-- The settings of the report are taken from the values under its two keys. -/
theorem taken_report (distinct : entries.Distinct) (sectioned : Sectioned entries)
    (report : ReportSettings) :
    Taken (fun value report => ReportSettings.ofToml value = .ok report) .default
        (entries.get? "report") report ↔
      Taken (fun value sort => value = .boolean sort) ReportSettings.default.sort
          (said entries "report" "sort") report.sort ∧
        Taken Datum.IsFormat ReportSettings.default.format (said entries "report" "format")
          report.format ∧
        Taken (fun value quiet => value = .boolean quiet) ReportSettings.default.quiet
          (said entries "report" "quiet") report.quiet := by
  cases found : entries.get? "report" with
  | none =>
      simp only [said_of_none found, Taken]
      cases report
      simp only [ReportSettings.default, ReportSettings.mk.injEq]
  | some value =>
      have within := distinct.get? found
      cases sectioned.report value found with
      | table shape span inner =>
          have distinct' := Toml.distinct_table.mp within
          have format : Taken (fun value format => value.asFormat = .ok format)
              ReportSettings.default.format (inner.get? "format") report.format ↔
              Taken (fun value format => value.datum.IsFormat format)
                ReportSettings.default.format (inner.get? "format") report.format :=
            taken_congr fun value there => Toml.asFormat_eq_ok (distinct'.get? there)
          simp only [said_of_table found, taken_map, ← Toml.asBoolean_eq_ok, ← format]
          rw [Taken, ReportSettings.ofToml,
            ReportSettings.foldlM_withEntry_eq_ok distinct'.keys, ReportSettings.follow_iff]

/-- The settings of the update are taken from the value under its key. -/
theorem taken_update (distinct : entries.Distinct) (sectioned : Sectioned entries)
    (update : UpdateSettings) :
    Taken (fun value update => UpdateSettings.ofToml value = .ok update) .default
        (entries.get? "update") update ↔
      Taken (fun value manifest => ∃ s, value = .string s ∧ some s = manifest)
        UpdateSettings.default.manifest (said entries "update" "manifest") update.manifest := by
  cases found : entries.get? "update" with
  | none =>
      simp only [said_of_none found, Taken]
      cases update
      simp only [UpdateSettings.default, UpdateSettings.mk.injEq]
  | some value =>
      have within := distinct.get? found
      cases sectioned.update value found with
      | table shape span inner =>
          have distinct' := Toml.distinct_table.mp within
          simp only [said_of_table found, taken_map, ← Toml.asText_eq_ok, ← Steps.map_eq_ok]
          rw [Taken, UpdateSettings.ofToml,
            UpdateSettings.foldlM_withEntry_eq_ok distinct'.keys, UpdateSettings.follow_iff]

/-- A document gives the settings that its four values say. -/
theorem ofEntries_eq_ok_iff_saidBy (distinct : entries.Distinct) (sectioned : Sectioned entries)
    (settings : Settings) :
    ofEntries entries = .ok settings ↔ SaidBy (.of entries) settings := by
  rw [ofEntries_eq_ok distinct.keys, follow_iff]
  constructor
  · rintro ⟨report, update⟩
    obtain ⟨sort, format, quiet⟩ := (taken_report distinct sectioned _).mp report
    exact ⟨sort, format, quiet, (taken_update distinct sectioned _).mp update⟩
  · rintro ⟨sort, format, quiet, manifest⟩
    exact ⟨(taken_report distinct sectioned _).mpr ⟨sort, format, quiet⟩,
      (taken_update distinct sectioned _).mpr manifest⟩

/-- Settings whose manifest, if there is one, has a character that is not white space. -/
def Presentable (settings : Settings) : Prop :=
  ∀ manifest, settings.update.manifest = some manifest → ∃ c ∈ manifest.toList, isBlank c = false

theorem all_isBlank_eq_false {s : String} :
    s.toList.all isBlank = false ↔ ∃ c ∈ s.toList, isBlank c = false := by
  simp only [List.all_eq_false, Bool.not_eq_true]

/-- Settings with a presentable manifest pass. -/
theorem validate_of_presentable {settings : Settings} (presentable : settings.Presentable) :
    validate settings = .ok settings := by
  unfold validate
  split
  · next manifest named =>
      rw [all_isBlank_eq_false.mpr (presentable manifest named), if_neg Bool.false_ne_true]
  · rfl

theorem validate_of_not_presentable {settings : Settings}
    (blank : ¬ settings.Presentable) : validate settings = .error .blankManifest := by
  unfold validate
  split
  · next manifest named =>
      rw [if_pos]
      apply Bool.of_not_eq_false
      intro visible
      apply blank
      intro other same
      cases named.symm.trans same
      exact all_isBlank_eq_false.mp visible
  · next silent =>
      exact absurd (fun manifest named => nomatch silent.symm.trans named) blank

/-- Settings that pass are kept as they are. -/
theorem validate_eq_ok {settings found : Settings} :
    validate settings = .ok found ↔ settings = found ∧ found.Presentable := by
  constructor
  · intro passes
    by_cases presentable : settings.Presentable
    · cases (validate_of_presentable presentable).symm.trans passes
      exact ⟨rfl, presentable⟩
    · cases (validate_of_not_presentable presentable).symm.trans passes
  · rintro ⟨rfl, presentable⟩
    exact validate_of_presentable presentable

/-- A text gives settings when it is a document that does and these may be presented. -/
theorem parse_eq_ok {text : String} {settings : Settings} :
    parse text = .ok settings ↔ ∃ entries, Toml.parse text.toList = .ok entries ∧
      ofEntries entries = .ok settings ∧ settings.Presentable := by
  simp only [parse, ofChars, Steps.bind_eq_ok, Steps.mapError_eq_ok, validate_eq_ok]
  constructor
  · rintro ⟨entries, reads, _, gives, rfl, presentable⟩
    exact ⟨entries, reads, gives, presentable⟩
  · rintro ⟨entries, reads, gives, presentable⟩
    exact ⟨entries, reads, settings, gives, rfl, presentable⟩

/-- **A text gives the settings that its four values say**, unless these name a blank manifest. -/
theorem parse_eq_ok_iff_saidBy {text : String} (reads : Toml.parse text.toList = .ok entries)
    (sectioned : Sectioned entries) (settings : Settings) :
    parse text = .ok settings ↔ SaidBy (.of entries) settings ∧ settings.Presentable := by
  rw [← ofEntries_eq_ok_iff_saidBy (Toml.distinct_of_parse reads) sectioned, parse_eq_ok]
  constructor
  · rintro ⟨found, again, gives, presentable⟩
    cases reads.symm.trans again
    exact ⟨gives, presentable⟩
  · rintro ⟨gives, presentable⟩
    exact ⟨entries, reads, gives, presentable⟩

theorem parse_empty : parse "" = .ok default := rfl

/-- **Settings depend only on the four values that they are read from.** Let two documents be well
formed, which is to say that they are read as tables of entries, and let `report` and `update` be
tables in them where they are there. If what they say of the four values is the same, then both
give the same settings or both give none, whatever else they hold and however it is written; and a
setting of whose value nothing is said is as the empty document has it. -/
theorem parse_depends_on_named {first second : String} {one two : Entries}
    (reads : Toml.parse first.toList = .ok one) (reads' : Toml.parse second.toList = .ok two)
    (sectioned : Sectioned one) (sectioned' : Sectioned two) (same : Named.of one = Named.of two) :
    (parse first).toOption = (parse second).toOption ∧
      ∃ plain, parse "" = .ok plain ∧ ∀ settings, parse first = .ok settings →
        ((Named.of one).sort = none → settings.report.sort = plain.report.sort) ∧
        ((Named.of one).format = none → settings.report.format = plain.report.format) ∧
        ((Named.of one).quiet = none → settings.report.quiet = plain.report.quiet) ∧
        ((Named.of one).manifest = none → settings.update.manifest = plain.update.manifest) := by
  constructor
  · ext settings
    rw [Steps.toOption_eq_some, Steps.toOption_eq_some, parse_eq_ok_iff_saidBy reads sectioned,
      parse_eq_ok_iff_saidBy reads' sectioned', same]
  · refine ⟨default, parse_empty, ?_⟩
    intro settings gives
    obtain ⟨⟨sort, format, quiet, manifest⟩, _⟩ :=
      (parse_eq_ok_iff_saidBy reads sectioned settings).mp gives
    refine ⟨?_, ?_, ?_, ?_⟩
    · intro silent
      rwa [silent] at sort
    · intro silent
      rwa [silent] at format
    · intro silent
      rwa [silent] at quiet
    · intro silent
      rwa [silent] at manifest

/-- A table under a header, and the same between braces in another order, with keys that are passed
over and an empty table. -/
theorem parse_depends_on_named_braced :
    let settings : Settings := ⟨⟨false, .text, false⟩, ⟨none⟩⟩
    (parse "[report]\nsort = false\nformat = 'text'\n").toOption = some settings ∧
      (parse "other = [1]\nreport = \x7bformat = \"text\", extra = 0, sort = false\x7d\n[update]\n"
        ).toOption = some settings := by
  have headed : Toml.parse "[report]\nsort = false\nformat = 'text'\n".toList =
      .ok [(⟨"report", 37, 31⟩, .table .headed (some ⟨38, 1⟩)
        [(⟨"sort", 29, 25⟩, .boolean ⟨22, 17⟩ false),
          (⟨"format", 16, 10⟩, .string ⟨7, 1⟩ "text")])] := by
    cbv
  have braced : Toml.parse
      "other = [1]\nreport = \x7bformat = \"text\", extra = 0, sort = false\x7d\n[update]\n".toList =
      .ok [(⟨"other", 73, 68⟩, .array ⟨65, 62⟩ [.integer ⟨64, 63⟩ 1]),
        (⟨"report", 61, 55⟩, .table .braced (some ⟨52, 10⟩)
          [(⟨"format", 51, 45⟩, .string ⟨42, 36⟩ "text"), (⟨"extra", 34, 29⟩, .integer ⟨26, 25⟩ 0),
            (⟨"sort", 23, 19⟩, .boolean ⟨16, 11⟩ false)]),
        (⟨"update", 8, 2⟩, .table .headed (some ⟨9, 1⟩) [])] := by
    cbv
  have plain : (parse "[report]\nsort = false\nformat = 'text'\n").toOption =
      some ⟨⟨false, .text, false⟩, ⟨none⟩⟩ := by
    cbv
  refine ⟨plain, (parse_depends_on_named headed braced ?_ ?_ ?_).1.symm.trans plain⟩
  · constructor
    · rintro value ⟨⟩
      exact .table _ _ _
    · rintro value ⟨⟩
  · constructor
    · rintro value ⟨⟩
      exact .table _ _ _
    · rintro value ⟨⟩
      exact .table _ _ _
  · simp [Named.of, said, Entries.get?, Toml.datum, Toml.entryData, Datum.member?]

end Settings

end LintReport
