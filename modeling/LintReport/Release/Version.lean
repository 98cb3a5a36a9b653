import LintReport.Text.Decimal
import LintReport.Log.Event

/-!
# Release versions

A version is three 64-bit numbers, written in decimal with dots between them. Leading zeros are
read but not written. Versions are compared by their first difference.
-/

namespace LintReport

/-- A release version, its most significant number first. -/
structure Version where
  major : UInt64
  minor : UInt64
  patch : UInt64
  deriving DecidableEq, Repr

/-- Why a text is no version. -/
inductive VersionDefect where
  | componentCount (found : Nat)
  | invalidComponent (component : List Char)
  deriving DecidableEq, Repr

/-- A text that is no version, and why. -/
structure VersionError where
  input : String
  defect : VersionDefect
  deriving DecidableEq, Repr

/-- The wording of an error. -/
def VersionError.message (error : VersionError) : String :=
  "invalid version '" ++ error.input ++ "': " ++
    match error.defect with
    | .componentCount found => "expected 3 components, found " ++ toString found
    | .invalidComponent component =>
      "component '" ++ String.ofList component ++ "' is not a non-negative integer"

namespace Version

/-- The number that a piece denotes: decimal digits only, at least one, and below `2^64`. -/
def component? (piece : List Char) : Option UInt64 :=
  if piece ≠ [] ∧ piece.all Char.isDigit ∧ Decimal.value piece < UInt64.size then
    some (UInt64.ofNat (Decimal.value piece))
  else none

/-- A piece as a number, or the piece itself as the defect. -/
def component (piece : List Char) : Except VersionDefect UInt64 :=
  match component? piece with
  | some number => .ok number
  | none => .error (.invalidComponent piece)

/-- The version that a run of characters denotes, or its first defect. Between dots there is one
piece more than there are dots. -/
def ofChars (chars : List Char) : Except VersionDefect Version :=
  match chars.splitOn '.' with
  | [major, minor, patch] => do
    let major ← component major
    let minor ← component minor
    let patch ← component patch
    return ⟨major, minor, patch⟩
  | pieces => .error (.componentCount pieces.length)

/-- The version that a text denotes. -/
def parse (text : String) : Except VersionError Version :=
  match ofChars text.toList with
  | .ok version => .ok version
  | .error defect => .error ⟨text, defect⟩

/-- A version with dots between its numbers, none of which has a leading zero. -/
def text (version : Version) : List Char :=
  Decimal.digits version.major.toNat ++ '.' :: Decimal.digits version.minor.toNat ++
    '.' :: Decimal.digits version.patch.toNat

/-- A version as a string. -/
def render (version : Version) : String := String.ofList version.text

/-- Compares versions by their most significant difference. -/
def order (left right : Version) : Ordering :=
  (compare left.major right.major).then
    ((compare left.minor right.minor).then (compare left.patch right.patch))

/-- The numbers of a version, the most significant first. -/
def numbers (version : Version) : List UInt64 := [version.major, version.minor, version.patch]

/-- Whether the first pair of different numbers has the smaller one on its left. -/
def precedes : List (UInt64 × UInt64) → Bool
  | [] => false
  | (left, right) :: more =>
    match compare left right with
    | .lt => true
    | .gt => false
    | .eq => precedes more

/-- Whether one version comes strictly before another. -/
def isBelow (left right : Version) : Bool := precedes (left.numbers.zip right.numbers)

/-- Whether a text denotes a later version than another. A text that denotes no version is never
later, and nothing is later than it. -/
def isNewer (current target : String) : Bool :=
  match parse current, parse target with
  | .ok current, .ok target => current.isBelow target
  | _, _ => false

/-- What comparing two texts notes: the first of them that denotes no version. -/
def isNewerEvents (current target : String) : List Event :=
  match parse current, parse target with
  | .error error, _ =>
    [⟨.debug, .comparing, "current version rejected, reporting no update",
      [("error", error.message)]⟩]
  | .ok _, .error error =>
    [⟨.debug, .comparing, "target version rejected, reporting no update",
      [("error", error.message)]⟩]
  | .ok _, .ok _ => []

end Version

end LintReport
