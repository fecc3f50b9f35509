import ExportIndex.Json.Shape
import ExportIndex.Record

/-
This file writes records as JSON and reads them back.
-/

namespace ExportIndex

namespace SymbolKind

def all : List SymbolKind :=
  [function, classDefinition, .variable, interface, typeAlias, reExport, component, default,
    unknown]

def name : SymbolKind → String
  | function => "function"
  | classDefinition => "class"
  | .variable => "variable"
  | interface => "interface"
  | typeAlias => "type-alias"
  | reExport => "re-export"
  | component => "component"
  | default => "default"
  | unknown => "unknown"

def ofJson? : Json → Option SymbolKind := Json.oneOf? name all

end SymbolKind

namespace ExportKind

def members : List ExportKind := [named, default, all]

def name : ExportKind → String
  | named => "named"
  | default => "default"
  | all => "all"

def ofJson? : Json → Option ExportKind := Json.oneOf? name members

end ExportKind

namespace PropertySignature

def fieldNames : List String := ["name", "type", "optional"]

def toJson (property : PropertySignature) : Json :=
  .object [("name", .text property.name), ("type", .text property.type),
    ("optional", .bool property.optional)]

def ofJson? (json : Json) : Option PropertySignature := do
  let field ← json.fields? fieldNames 3
  return {
    name := ← Json.required? Json.toText? (field "name")
    type := ← Json.required? Json.toText? (field "type")
    optional := ← Json.required? Json.toBool? (field "optional") }

end PropertySignature

namespace ComponentProp

def fieldNames : List String := ["name", "type"]

def toJson (prop : ComponentProp) : Json :=
  .object [("name", .text prop.name), ("type", .text prop.type)]

def ofJson? (json : Json) : Option ComponentProp := do
  let field ← json.fields? fieldNames 2
  return {
    name := ← Json.required? Json.toText? (field "name")
    type := ← Json.required? Json.toText? (field "type") }

end ComponentProp

namespace Metadata

def toJson : Metadata → Json
  | properties items =>
    .object [("properties", .list (items.map PropertySignature.toJson))]
  | definition text => .object [("definition", .text text)]
  | props items => .object [("props", .list (items.map ComponentProp.toJson))]

def ofJson? (json : Json) : Option Metadata := do
  let (key, value) ← json.onlyMember?
  match key with
  | "properties" => (value.toListOf? PropertySignature.ofJson?).map properties
  | "definition" => value.toText?.map definition
  | "props" => (value.toListOf? ComponentProp.ofJson?).map props
  | _ => none

end Metadata

namespace ExportRecord

def fieldNames : List String := ["name", "kind", "exported", "export_kind", "metadata"]

/-- Metadata is written only if there is some. -/
def toJson (record : ExportRecord) : Json :=
  .object <|
    [ ("name", .text record.name),
      ("kind", .text record.kind.name),
      ("exported", .bool record.exported),
      ("export_kind", record.exportKind.elim .null fun kind => .text kind.name) ] ++
      (record.metadata.map fun metadata => ("metadata", metadata.toJson)).toList

def ofJson? (json : Json) : Option ExportRecord := do
  let field ← json.fields? fieldNames 4
  return {
    name := ← Json.required? Json.toText? (field "name")
    kind := ← Json.required? SymbolKind.ofJson? (field "kind")
    exported := ← Json.required? Json.toBool? (field "exported")
    exportKind := ← Json.optional? ExportKind.ofJson? (field "export_kind")
    metadata := ← Json.optional? Metadata.ofJson? (field "metadata") }

end ExportRecord

end ExportIndex
