import LintReport.Text.Quoted
import LintReport.Binary64.Layout
import LintReport.Toml.Basic
import LintReport.Settings.Basic

/-!
# Settings in a document

The tables `report` and `update` of a document hold the settings; all other keys are passed over.
Each of the two may also be an array of its values in a fixed order. Keys are looked at in the
order of the document, and the first value that is not as it should be is the one complained of.
-/

namespace LintReport

/-- What is wrong with a value of a settings document. -/
inductive Complaint where
  | wrongType (found expected : String)
  | unknownFormat (name : String)
  | noVariant
  | manyVariants
  | notVariant
  | variantNotTable (found : String)
  | variantNotEmpty
  | variantRunNotEmpty
  | duplicateKey (name : String) (table : Option (List String))
  deriving DecidableEq, Repr

/-- The wording of a complaint. -/
def Complaint.message : Complaint → String
  | wrongType found expected => "invalid type: " ++ found ++ ", expected " ++ expected
  | unknownFormat name =>
    "unknown variant `" ++ name ++ "`, " ++ Json.choiceText Format.words
  | noVariant => "wanted exactly 1 element, found 0 elements"
  | manyVariants => "wanted exactly 1 element, more than 1 element"
  | notVariant => "wanted string or table"
  | variantNotTable found => "expected table, found " ++ found
  | variantNotEmpty => "expected empty table"
  | variantRunNotEmpty => "expected empty array"
  | duplicateKey name none => "duplicate key `" ++ name ++ "`"
  | duplicateKey name (some []) => "duplicate key `" ++ name ++ "` in document root"
  | duplicateKey name (some path) =>
    "duplicate key `" ++ name ++ "` in table `" ++ ".".intercalate path ++ "`"

/-- A complaint, and what it is about when that is known. -/
structure Objection where
  complaint : Complaint
  span : Option Toml.Span
  deriving DecidableEq, Repr

namespace Objection

/-- What the objection is about if that is not known yet. -/
def orAt (span : Option Toml.Span) (objection : Objection) : Objection :=
  { objection with span := objection.span.or span }

end Objection

/-- A result whose objections are about a part of the document unless they say otherwise. -/
def within {α : Type} (span : Option Toml.Span) (result : Except Objection α) :
    Except Objection α :=
  result.mapError (Objection.orAt span)

namespace Toml

/-- A floating-point value as it is named in a complaint. -/
def Real.text : Real → String
  | finite x => String.ofList (Binary64.write .full x)
  | infinite true => "-inf"
  | infinite false => "inf"
  | undefined => "NaN"

/-- What a value is called in a complaint. -/
def describe : Toml → String
  | string _ s => "string " ++ Quoted.quote s
  | integer _ n => "integer `" ++ String.ofList (Decimal.integer n) ++ "`"
  | real _ x => "floating point `" ++ x.text ++ "`"
  | boolean _ b => "boolean `" ++ toString b ++ "`"
  | moment _ => "map"
  | array _ _ => "sequence"
  | table _ _ _ => "map"
  | tables _ => "sequence"

/-- The objection to a value of the wrong kind. -/
def wrongType (value : Toml) (expected : String) : Objection :=
  ⟨.wrongType value.describe expected, value.span?⟩

/-- A truth value. -/
def asBoolean : Toml → Except Objection Bool
  | boolean _ b => .ok b
  | other => .error (other.wrongType "a boolean")

/-- A string. -/
def asText : Toml → Except Objection String
  | string _ s => .ok s
  | other => .error (other.wrongType "a string")

/-- Nothing: a table or an array without entries. -/
def asNothing : Toml → Except Objection Unit
  | tables items => if items.isEmpty then .ok () else .error ⟨.variantRunNotEmpty, (tables items).span?⟩
  | array span items => if items.isEmpty then .ok () else .error ⟨.variantNotEmpty, some span⟩
  | table _ span entries => if entries.isEmpty then .ok () else .error ⟨.variantNotEmpty, span⟩
  | string span _ => .error ⟨.variantNotTable "string", some span⟩
  | integer span _ => .error ⟨.variantNotTable "integer", some span⟩
  | real span _ => .error ⟨.variantNotTable "float", some span⟩
  | boolean span _ => .error ⟨.variantNotTable "boolean", some span⟩
  | moment span => .error ⟨.variantNotTable "datetime", some span⟩

/-- The format that a word names. -/
def formatNamed (name : String) (span : Span) : Except Objection Format :=
  match Format.ofWord? name with
  | some format => .ok format
  | none => .error ⟨.unknownFormat name, some span⟩

/-- A format: its word, or a table with the word as its only key and nothing as its value. -/
def asFormat (value : Toml) : Except Objection Format :=
  within value.span? <|
    match value with
    | string span name => formatNamed name span
    | table _ _ [] => .error ⟨.noVariant, none⟩
    | table _ _ [(key, inner)] => do
      let format ← formatNamed key.name key.span
      asNothing inner
      return format
    | table _ _ _ => .error ⟨.manyVariants, none⟩
    | other => .error ⟨.notVariant, other.span?⟩

/-- What an entry is, when its value has no place of its own the place of its key. -/
def entrySpan (entry : Key × Toml) : Option Span := entry.2.span?.or (some entry.1.span)

end Toml

namespace ReportSettings

/-- The settings with one entry of a table taken over. -/
def withEntry (settings : ReportSettings) (entry : Toml.Key × Toml) :
    Except Objection ReportSettings :=
  within (Toml.entrySpan entry) <|
    match entry.1.name with
    | "sort" => entry.2.asBoolean.map fun sort => { settings with sort }
    | "format" => entry.2.asFormat.map fun format => { settings with format }
    | "quiet" => entry.2.asBoolean.map fun quiet => { settings with quiet }
    | _ => .ok settings

/-- The settings that an array gives: whether to sort, the format, and whether to be quiet. -/
def ofItems : List Toml → Except Objection ReportSettings
  | [] => .ok default
  | [sort] => do
    let sort ← sort.asBoolean
    return { default with sort }
  | [sort, format] => do
    let sort ← sort.asBoolean
    let format ← format.asFormat
    return { default with sort, format }
  | sort :: format :: quiet :: _ => do
    let sort ← sort.asBoolean
    let format ← format.asFormat
    let quiet ← quiet.asBoolean
    return ⟨sort, format, quiet⟩

/-- The settings that a value gives; a moment gives none. -/
def ofToml : Toml → Except Objection ReportSettings
  | .table _ _ entries => entries.foldlM withEntry default
  | .array _ items => ofItems items
  | .tables items => ofItems items
  | .moment _ => .ok default
  | other => .error (other.wrongType "struct ReportConfig")

end ReportSettings

namespace UpdateSettings

/-- The settings with one entry of a table taken over. -/
def withEntry (settings : UpdateSettings) (entry : Toml.Key × Toml) :
    Except Objection UpdateSettings :=
  within (Toml.entrySpan entry) <|
    match entry.1.name with
    | "manifest" => entry.2.asText.map fun manifest => { settings with manifest := some manifest }
    | _ => .ok settings

/-- The settings that an array gives: the manifest. -/
def ofItems : List Toml → Except Objection UpdateSettings
  | [] => .ok default
  | manifest :: _ => manifest.asText.map fun manifest => ⟨some manifest⟩

/-- The settings that a value gives; a moment gives none. -/
def ofToml : Toml → Except Objection UpdateSettings
  | .table _ _ entries => entries.foldlM withEntry default
  | .array _ items => ofItems items
  | .tables items => ofItems items
  | .moment _ => .ok default
  | other => .error (other.wrongType "struct UpdateConfig")

end UpdateSettings

namespace Settings

/-- The settings with one entry of the document taken over. -/
def withEntry (settings : Settings) (entry : Toml.Key × Toml) : Except Objection Settings :=
  within (Toml.entrySpan entry) <|
    match entry.1.name with
    | "report" => (ReportSettings.ofToml entry.2).map fun report => { settings with report }
    | "update" => (UpdateSettings.ofToml entry.2).map fun update => { settings with update }
    | _ => .ok settings

/-- The settings that a document gives. -/
def ofEntries (entries : Toml.Entries) : Except Objection Settings :=
  entries.foldlM withEntry default

end Settings

end LintReport
