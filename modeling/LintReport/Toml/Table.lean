import LintReport.Toml.Basic

/-!
# Putting tables together

A document is read line by line, and each line adds to the table whose header came last. A header
may name tables that are not there yet; they are implied, and may later get a header of their own.
A dotted key makes tables too, which only other dotted keys under the same header may add to. A
table between braces is complete, and nothing is added to it from outside.
-/

namespace LintReport.Toml

/-- Why a table is entered: to find the place of a header, or to write under a dotted key, of a
line or between braces. -/
inductive Entry where
  | header
  | dotted
  | braced
  deriving DecidableEq, Repr

/-- The shape of the tables that are made on the way. -/
def Entry.shape : Entry → Shape
  | header => .implied
  | dotted => .dotted
  | braced => .dotted

/-- Whether a table may be entered: a header may pass any table but one between braces, a dotted
key only those without a header. -/
def Entry.mayPass : Entry → Shape → Bool
  | header, shape => shape != .braced
  | _, .implied => true
  | _, .dotted => true
  | _, _ => false

/-- The fault of entering a table that may not be entered. -/
def Entry.refusal (entry : Entry) (key : Key) (shape : Shape) (place : Span) : Fault :=
  match entry, shape with
  | .dotted, .headed => .duplicateKey key.name none place
  | .braced, _ => .duplicateKey key.name none place
  | _, _ => .malformed

/-- The last of a run of tables, changed. -/
def changeLast (change : Shape → Entries → Except Fault Entries) :
    List Toml → Except Fault (List Toml)
  | [] => .error .malformed
  | [.table shape span entries] => do
    let entries ← change shape entries
    return [.table shape span entries]
  | [_] => .error .malformed
  | item :: more => do
    let more ← changeLast change more
    return item :: more

/-- Changes the table at the end of a path. Tables that are not there are made, and of a run of
tables the last one is entered. Faults are at the given place. -/
def descend (entry : Entry) (place : Span) (change : Shape → Entries → Except Fault Entries) :
    List Key → Shape → Entries → Except Fault Entries
  | [], shape, entries => change shape entries
  | key :: path, _, entries =>
    match entries.get? key.name with
    | none => do
      let inner ← descend entry place change path entry.shape []
      return entries.put key (.table entry.shape none inner)
    | some (.table shape span inner) =>
      if entry.mayPass shape then do
        let inner ← descend entry place change path shape inner
        return entries.put key (.table shape span inner)
      else .error (entry.refusal key shape place)
    | some (.tables items) => do
      let items ← changeLast (descend entry place change path) items
      return entries.put key (.tables items)
    | some _ => .error .malformed

/-- Adds a key and its value to the table that a dotted key ends in. A table that a header implied
cannot be written to by a dotted key. -/
def addTo (table : Option (List String)) (place : Span) (dotted : Bool) (key : Key) (value : Toml)
    (shape : Shape) (entries : Entries) : Except Fault Entries :=
  if dotted ∧ shape ≠ .dotted then .error (.duplicateKey key.name none place)
  else if (entries.get? key.name).isSome then .error (.duplicateKey key.name table place)
  else .ok (entries.put key value)

/-- Adds the value of a dotted key to a table. -/
def addValue (entry : Entry) (table : Option (List String)) (place : Span) (path : List Key)
    (key : Key) (value : Toml) (shape : Shape) (entries : Entries) : Except Fault Entries :=
  descend entry place (addTo table place (!path.isEmpty) key value) path shape entries

/-- A document that is being put together: all that is complete, and the table under the last
header with its path. Before the first header the path is empty. -/
structure Assembly where
  root : Entries
  path : List Key
  inRun : Bool
  span : Option Span
  current : Entries

namespace Assembly

/-- Nothing yet. -/
def empty : Assembly := ⟨[], [], false, none, []⟩

/-- Any place will do for faults of headers, which are all alike. -/
def nowhere : Span := ⟨0, 0⟩

/-- Adds a table to the run of tables under a key. -/
def addToRun (key : Key) (table : Toml) (_ : Shape) (entries : Entries) : Except Fault Entries :=
  match entries.get? key.name with
  | none => .ok (entries.put key (.tables [table]))
  | some (.tables items) => .ok (entries.put key (.tables (items ++ [table])))
  | some _ => .error .malformed

/-- Adds a table under a key that is free. -/
def addTable (key : Key) (table : Toml) (_ : Shape) (entries : Entries) : Except Fault Entries :=
  .ok (entries.put key table)

/-- The whole document once the current table is complete. -/
def finish (assembly : Assembly) : Except Fault Entries :=
  match assembly.path.getLast? with
  | none => .ok assembly.current
  | some key =>
    let table := Toml.table .headed assembly.span assembly.current
    let add := if assembly.inRun then addToRun key table else addTable key table
    descend .header nowhere add assembly.path.dropLast .headed assembly.root

/-- Checks that a key is free or holds a run of tables. -/
def checkRun (key : Key) (_ : Shape) (entries : Entries) : Except Fault Entries :=
  match entries.get? key.name with
  | none => .ok entries
  | some (.tables _) => .ok entries
  | some _ => .error .malformed

/-- Takes a key out, which must be free or hold a table that a header implied. -/
def takeImplied (key : Key) (_ : Shape) (entries : Entries) : Except Fault Entries :=
  match entries.get? key.name with
  | none => .ok entries
  | some (.table .implied _ _) => .ok (entries.erase key.name)
  | some _ => .error .malformed

/-- The entries of the table at the end of a path, as far as a header finds them. -/
def lookUp : List Key → Entries → Entries
  | [], entries => entries
  | key :: path, entries =>
    match entries.get? key.name with
    | some (.table _ _ inner) => lookUp path inner
    | some (.tables items) =>
      match items.getLast? with
      | some (.table _ _ inner) => lookUp path inner
      | _ => []
    | _ => []

/-- Begins the table of a header. -/
def startTable (assembly : Assembly) (path : List Key) (span : Span) : Except Fault Assembly := do
  let root ← assembly.finish
  match path.getLast? with
  | none => .error .malformed
  | some key => do
    let taken ← descend .header nowhere (takeImplied key) path.dropLast .headed root
    return ⟨taken, path, false, some span, lookUp path root⟩

/-- Begins the next table of a run. -/
def startInRun (assembly : Assembly) (path : List Key) (span : Span) : Except Fault Assembly := do
  let root ← assembly.finish
  match path.getLast? with
  | none => .error .malformed
  | some key => do
    let root ← descend .header nowhere (checkRun key) path.dropLast .headed root
    return ⟨root, path, true, some span, []⟩

/-- Adds a line to the current table, which then reaches to the end of the value. -/
def addLine (assembly : Assembly) (place : Span) (path : List Key) (key : Key) (value : Toml) :
    Except Fault Assembly := do
  let current ← addValue .dotted (some (assembly.path.map Key.name)) place path key value .headed
    assembly.current
  return { assembly with current, span := Span.upTo assembly.span value.span? }

end Assembly

end LintReport.Toml
