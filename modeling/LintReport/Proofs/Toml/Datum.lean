import LintReport.Toml.Basic
import LintReport.Proofs.Toml.Distinct

/-!
# What a value says

The same value can be written in many ways: a table under a header, by dotted keys or between
braces, with its keys in any order; a list of tables in brackets or under headers in double
brackets. A datum is what is left when the notation is forgotten (`Toml.datum`): a table is just the
value that it has for each name. Since the keys of a table are distinct, its datum tells whether it is
empty (`Toml.datum_table_eq_empty`) or has one entry only (`Toml.datum_table_eq_single`).
-/

namespace LintReport

/-- What a value says, however it is written. Dates and times are not told apart. -/
inductive Datum where
  | string (s : String)
  | integer (n : Int)
  | real (x : Toml.Real)
  | boolean (b : Bool)
  | moment
  | array (items : List Datum)
  | table (value? : String → Option Datum)

namespace Datum

/-- What the value of a name says; only tables have named values. -/
def member? : Datum → String → Option Datum
  | table value?, name => value? name
  | _, _ => none

/-- The table in which no name has a value. -/
def empty : Datum := table fun _ => none

/-- The table in which one name only has a value. -/
def single (word : String) (inner : Datum) : Datum :=
  table fun name => if name = word then some inner else none

end Datum

namespace Toml

mutual

/-- What a value says. -/
def datum : Toml → Datum
  | .string _ s => .string s
  | .integer _ n => .integer n
  | .real _ x => .real x
  | .boolean _ b => .boolean b
  | .moment _ => .moment
  | .array _ items => .array (itemData items)
  | .table _ _ entries => .table (entryData entries)
  | .tables items => .array (itemData items)

/-- What values say, in their order. -/
def itemData : List Toml → List Datum
  | [] => []
  | item :: more => datum item :: itemData more

/-- What the value of each name says. -/
def entryData : List (Key × Toml) → String → Option Datum
  | [], _ => none
  | (key, value) :: more, name =>
    if key.name = name then some (datum value) else entryData more name

end

/-- What the entries hold under a name is what the value under it holds. -/
theorem entryData_eq (entries : Entries) (name : String) :
    entryData entries name = (entries.get? name).map datum := by
  induction entries with
  | nil => rfl
  | cons entry more ih =>
      obtain ⟨key, value⟩ := entry
      rw [entryData, Entries.get?_cons, ih]
      split <;> rfl

/-- What a table holds under a name is what the value under it holds. -/
theorem member?_datum_table (shape : Shape) (span : Option Span) (entries : Entries)
    (name : String) :
    (table shape span entries).datum.member? name = (entries.get? name).map datum :=
  entryData_eq entries name

theorem itemData_eq_nil {items : List Toml} : itemData items = [] ↔ items = [] := by
  cases items <;> simp only [itemData, reduceCtorEq]

/-- A table that says nothing of any name has no entries. -/
theorem datum_table_eq_empty {shape : Shape} {span : Option Span} {entries : Entries} :
    (table shape span entries).datum = .empty ↔ entries = [] := by
  constructor
  · intro same
    have silent : entryData entries = fun _ => none := Datum.table.inj same
    cases entries with
    | nil => rfl
    | cons entry more =>
        have here := congrFun silent entry.1.name
        simp only [entryData, ↓reduceIte, reduceCtorEq] at here
  · rintro rfl
    rfl

/-- A table that says something of one name only has one entry, since its keys are distinct. -/
theorem datum_table_eq_single {shape : Shape} {span : Option Span} {entries : Entries}
    (keys : entries.names.Nodup) {word : String} {inner : Datum} :
    (table shape span entries).datum = .single word inner ↔
      ∃ key value, entries = [(key, value)] ∧ key.name = word ∧ value.datum = inner := by
  constructor
  · intro same
    have whole : entryData entries = fun name => if name = word then some inner else none :=
      Datum.table.inj same
    match entries with
    | [] =>
        have here := congrFun whole word
        simp only [entryData, ↓reduceIte, reduceCtorEq] at here
    | (key, value) :: more =>
        have here := congrFun whole key.name
        simp only [entryData, ↓reduceIte] at here
        obtain ⟨rfl, found⟩ := Option.ite_none_right_eq_some.mp here.symm
        refine ⟨key, value, ?_, rfl, (Option.some.inj found).symm⟩
        -- A second key would be another name with a value.
        match more with
        | [] => rfl
        | (other, _) :: _ =>
            obtain ⟨fresh, _⟩ := List.nodup_cons.mp keys
            have apart : other.name ≠ key.name := fun equal =>
              fresh (List.mem_map.mpr ⟨_, List.mem_cons_self, equal⟩)
            have there := congrFun whole other.name
            simp only [entryData, apart, apart.symm, ↓reduceIte, reduceCtorEq] at there
  · rintro ⟨key, value, rfl, rfl, rfl⟩
    rw [Datum.single, datum]
    congr 1
    funext name
    simp only [entryData, eq_comm]

end Toml

end LintReport
