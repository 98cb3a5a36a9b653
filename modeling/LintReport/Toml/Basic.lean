import LintReport.Binary64.Basic

/-!
# TOML documents

A document is a tree of tables. A table keeps its entries in the order in which their keys were
first written, and remembers how it came about, since that decides whether it may be added to.
Every value remembers where it was written, so that whoever reads the tree can point at it.
-/

namespace LintReport

namespace Toml

/-- A part of a document: how many characters are left of the document where it begins, and where
it ends. -/
structure Span where
  opens : Nat
  closes : Nat
  deriving DecidableEq, Repr

/-- The part between two places of a document, each given by what is left of it. -/
def Span.between (opens closes : List Char) : Span := ⟨opens.length, closes.length⟩

/-- The part that reaches from where the first one begins to where the second one ends. -/
def Span.upTo (first last : Option Span) : Option Span :=
  match first, last with
  | some first, some last => some ⟨first.opens, last.closes⟩
  | first, _ => first

/-- A key, and where it was first written. -/
structure Key where
  name : String
  span : Span
  deriving DecidableEq, Repr

/-- A floating-point value: a finite number, or what overflow and undefined results are written
as. -/
inductive Real where
  | finite (x : Binary64)
  | infinite (negative : Bool)
  | undefined
  deriving DecidableEq, Repr

/-- How a table came about: because a header names a table inside it, because a dotted key runs
through it, by a header of its own, or between braces. -/
inductive Shape where
  | implied
  | dotted
  | headed
  | braced
  deriving DecidableEq, Repr

end Toml

/-- A value of a document. A moment is a date, a time, or both. Tables under a header in double
brackets form a run of tables. -/
inductive Toml where
  | string (span : Toml.Span) (s : String)
  | integer (span : Toml.Span) (n : Int)
  | real (span : Toml.Span) (x : Toml.Real)
  | boolean (span : Toml.Span) (b : Bool)
  | moment (span : Toml.Span)
  | array (span : Toml.Span) (items : List Toml)
  | table (shape : Toml.Shape) (span : Option Toml.Span) (entries : List (Toml.Key × Toml))
  | tables (items : List Toml)

namespace Toml

/-- The entries of a table, in the order of their keys. -/
abbrev Entries := List (Key × Toml)

namespace Entries

/-- The value of a key. -/
def get? (entries : Entries) (name : String) : Option Toml :=
  (entries.find? (·.1.name = name)).map Prod.snd

/-- The entries with the value of a key changed; a key that is not there is added at the end. -/
def put (key : Key) (value : Toml) : Entries → Entries
  | [] => [(key, value)]
  | entry :: rest =>
    if entry.1.name = key.name then (entry.1, value) :: rest else entry :: put key value rest

/-- The entries without a key. -/
def erase (name : String) (entries : Entries) : Entries := entries.filter (·.1.name ≠ name)

end Entries

/-- Where a value was written. A table with a header reaches from there to the end of its last
line, and a run of tables from its first header to the end of its last table; a table that no
header and no brace opens was written nowhere. -/
def span? : Toml → Option Span
  | string span _ => some span
  | integer span _ => some span
  | real span _ => some span
  | boolean span _ => some span
  | moment span => some span
  | array span _ => some span
  | table _ span _ => span
  | tables items =>
    match items.head?, items.getLast? with
    | some (table _ (some first) _), some (table _ (some last) _) =>
      some ⟨first.opens, last.closes⟩
    | _, _ => none

/-- Why a text is no document: it breaks the grammar, or a key is given twice, in a table known by
its path or in one that is not named. -/
inductive Fault where
  | malformed
  | duplicateKey (name : String) (table : Option (List String)) (place : Span)
  deriving DecidableEq, Repr

/-- A step of reading: a value and what is left of the text, or a fault. -/
abbrev Reader (α : Type) := List Char → Except Fault (α × List Char)

/-- How many brackets and braces, and how many keys joined by dots, a document must stay below. -/
def nestingLimit : Nat := 80

end Toml

end LintReport
