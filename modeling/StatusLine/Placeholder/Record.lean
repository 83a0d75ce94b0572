import StatusLine.Bounds
import StatusLine.Json.Record
import StatusLine.Placeholder.Basic
import StatusLine.Template

/-!
# Placeholders as JSON

A placeholder is an object whose member `type` says its kind; fields that are not set are left out.
Numbers are read within their words: 64 bits with a sign for offsets, 32 without for increments.
A segment is a bare string or the object of its placeholder.
-/
namespace StatusLine

namespace Rounding

def toJson (r : Rounding) : Json :=
  .array [.integer r.increment, .string r.unit.name, .string r.direction.name]

def ofJson? : Json → Option Rounding
  | .array [increment, unit, direction] => do
    let n ← (increment.integer?).filter fun n => decide (Bounds.IsWord32 n)
    return ⟨n.toNat, ← unit.looseName?.bind TimeUnit.ofName?,
      ← direction.looseName?.bind Direction.ofName?⟩
  | _ => none

end Rounding

namespace Placeholder

def offset? (v : Json) : Option Int := v.integer?.filter fun n => decide (Bounds.IsSigned64 n)

def strings (ss : List String) : Json := .array (ss.map .string)

def member {α : Type} (key : String) (write : α → Json) (v : Option α) : List (String × Json) :=
  (v.map fun v => (key, write v)).toList

def kind : Placeholder → String
  | directory _ => "directory-name"
  | git _ => "git-reference"
  | input _ => "input"
  | time _ => "time"

def members : Placeholder → List (String × Json)
  | directory d =>
    member "directoryOffset" .integer d.offset ++
      member "inputWordFormat" (fun f => .string f.name) d.format ++
      member "reformatWordCasing" (fun c => .string c.name) d.casing ++
      member "outputWordJoiner" .string d.joiner
  | git r => [("referenceType", .string r.name)]
  | input i =>
    member "mandatoryValues" strings i.mandatory ++ member "optionalValues" strings i.optional
  | time t =>
    member "offset" .integer t.offset ++ member "round" Rounding.toJson t.round ++
      member "format" .string t.format

def toJson (p : Placeholder) : Json := .object (("type", .string p.kind) :: p.members)

def directoryOfJson? (v : Json) : Option DirectoryName := do
  match ← v.fields? ["directoryOffset", "inputWordFormat", "reformatWordCasing",
      "outputWordJoiner"] with
  | [offset, format, casing, joiner] =>
    return ⟨← Json.optional offset? offset,
      ← Json.optional (·.looseName?.bind WordFormat.ofName?) format,
      ← Json.optional (·.looseName?.bind WordCasing.ofName?) casing,
      ← Json.optional Json.string? joiner⟩
  | _ => none

def gitOfJson? (v : Json) : Option GitReference := do
  match ← v.fields? ["referenceType"] with
  | [reference] => Json.required (·.looseName?.bind GitReference.ofName?) reference
  | _ => none

def inputOfJson? (v : Json) : Option InputChoice := do
  match ← v.fields? ["mandatoryValues", "optionalValues"] with
  | [mandatory, optional] =>
    return ⟨← Json.optional (Json.list? Json.string?) mandatory,
      ← Json.optional (Json.list? Json.string?) optional⟩
  | _ => none

def timeOfJson? (v : Json) : Option ClockTime := do
  match ← v.fields? ["offset", "round", "format"] with
  | [offset, round, format] =>
    return ⟨← Json.optional offset? offset, ← Json.optional Rounding.ofJson? round,
      ← Json.optional Json.string? format⟩
  | _ => none

def ofKind? (kind : String) (fields : Json) : Option Placeholder :=
  match kind with
  | "directory-name" => directory <$> directoryOfJson? fields
  | "git-reference" => git <$> gitOfJson? fields
  | "input" => input <$> inputOfJson? fields
  | "time" => time <$> timeOfJson? fields
  | _ => none

/-- In an array the kind comes first and then the fields in order. -/
def ofJson? : Json → Option Placeholder
  | .object members => do
    match ← Json.field? members "type" with
    | some (.string kind) => ofKind? kind (.object (members.filter (·.1 != "type")))
    | _ => none
  | .array (.string kind :: fields) => ofKind? kind (.array fields)
  | _ => none

end Placeholder

def Segment.toJson : Segment → Json
  | .text s => .string s
  | .placeholder p => p.toJson

def Template.toJson (segments : List Segment) : Json := .array (segments.map Segment.toJson)

end StatusLine
