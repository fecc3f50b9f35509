import ExportIndex.Admission
import ExportIndex.AnonymousDefault
import ExportIndex.Arena.Check
import ExportIndex.Arena.OfTree
import ExportIndex.Record.Merge
import ExportIndex.TypeScript.TypeText

/-
This file collects the exports of typed modules.
-/

namespace ExportIndex.TypeScript

def extensions : List String := ["ts", "tsx"]

def anonymousDefault : AnonymousDefault := .literal "default"

/-- The key of a property; a computed one has no name. -/
def propertyKey? (arena : Arena) (key : Nat) : Option String :=
  match arena.kind key with
  | "property_identifier" | "number" => some (arena.text key)
  | "string" => stringValue? arena key
  | _ => none

def property? (arena : Arena) (member : Nat) : Option PropertySignature := do
  let name ← propertyKey? arena (← arena.field? member "name")
  let type := ((arena.field? member "type").map (resolve arena)).getD implicitAny
  return ⟨name, type, (arena.childOfKind? member "?").isSome⟩

/-- The properties of an interface in the order of their declaration. -/
def properties (arena : Arena) (body : Nat) : List PropertySignature :=
  (arena.namedChildren body).filterMap fun member =>
    if arena.kind member = "property_signature" then property? arena member else none

def declaratorRecord? (arena : Arena) (declarator : Nat) : Option ExportRecord :=
  if arena.kind declarator = "variable_declarator" then
    ((arena.field? declarator "name").filter fun name => arena.kind name == "identifier").map
      fun name => .named (arena.text name) .variable
  else none

def functionKinds : List String :=
  ["function_declaration", "generator_function_declaration", "function_signature"]

def classKinds : List String := ["class_declaration", "abstract_class_declaration"]

/-- The records of a declaration. An ambient one declares what its first named child
declares; ambient declarations nest at most `depth` deep. -/
def declarationRecords (arena : Arena) : Nat → Nat → List ExportRecord
  | 0, _ => []
  | depth + 1, id =>
    let name? := (arena.field? id "name").map arena.text
    let kind := arena.kind id
    if kind = "ambient_declaration" then
      match firstNamed? arena id with
      | some inner => declarationRecords arena depth inner
      | none => []
    else if kind = "interface_declaration" then
      let properties := ((arena.field? id "body").map (properties arena)).getD []
      (name?.map fun name =>
        (ExportRecord.named name .interface).withMetadata (.properties properties)).toList
    else if kind = "type_alias_declaration" then
      let text := ((arena.field? id "value").map (resolve arena)).getD unknownType
      (name?.map fun name =>
        (ExportRecord.named name .typeAlias).withMetadata (.definition text)).toList
    else if functionKinds.contains kind then
      (name?.map fun name => ExportRecord.named name .function).toList
    else if classKinds.contains kind then
      (name?.map fun name => ExportRecord.named name .classDefinition).toList
    else if ["lexical_declaration", "variable_declaration"].contains kind then
      (arena.namedChildren id).filterMap (declaratorRecord? arena)
    else []

def specifierRecord? (arena : Arena) (specifier : Nat) : Option ExportRecord :=
  if arena.kind specifier = "export_specifier" then
    (((arena.field? specifier "alias").or (arena.field? specifier "name")).filter
      fun name => arena.kind name == "identifier").map
        fun name => .named (arena.text name) .reExport
  else none

/-- The record of a namespace that stands for all exports of another module. -/
def namespaceRecord? (arena : Arena) (clause : Nat) : Option ExportRecord :=
  ((arena.namedChildren clause).find? fun name => arena.kind name == "identifier").map
    fun name => (ExportRecord.named (arena.text name) .reExport).withExportKind (some .all)

def namedRecords (arena : Arena) (id : Nat) : List ExportRecord :=
  let declared := ((arena.field? id "declaration").map
    (declarationRecords arena (arena.size + 1))).getD []
  let listed := ((arena.childOfKind? id "export_clause").map fun clause =>
    (arena.namedChildren clause).filterMap (specifierRecord? arena)).getD []
  let whole := ((arena.childOfKind? id "namespace_export").bind (namespaceRecord? arena)).toList
  declared ++ listed ++ whole

/-- The kind of symbol that a default export is. -/
def defaultKind? (kind : String) : Option SymbolKind :=
  if ["function_declaration", "generator_function_declaration", "function",
      "function_expression", "generator_function"].contains kind then some .function
  else if ["class_declaration", "abstract_class_declaration", "class"].contains kind then
    some .classDefinition
  else none

def defaultRecord (arena : Arena) (path : FilePath) (id : Nat) : ExportRecord :=
  let anonymous := anonymousDefault.nameFor path
  let named := do
    let target ← (arena.field? id "declaration").or (arena.field? id "value")
    let kind ← defaultKind? (arena.kind target)
    return ExportRecord.ofDefault (((arena.field? target "name").map arena.text).getD anonymous)
      kind
  named.getD (.ofDefault anonymous .default)

/-- Whether a node is a statement of the file itself. -/
def isTopLevel (arena : Arena) (id : Nat) : Bool :=
  (arena.parent? id).any fun parent => arena.kind parent == "program"

/-- Adds the records of a node; exports within namespaces give none. -/
def visit (arena : Arena) (path : FilePath) (records : List ExportRecord) (id : Nat) :
    List ExportRecord :=
  if arena.kind id = "export_statement" && isTopLevel arena id then
    if (arena.childOfKind? id "default").isSome then
      records ++ [defaultRecord arena path id]
    else records ++ namedRecords arena id
  else records

/-- The records of what is reached from a node. -/
def recordsFrom (arena : Arena) (path : FilePath) (start : Nat) : List ExportRecord :=
  ExportRecord.dedup ((arena.walk start).foldl (visit arena path) [])

/-- The exports of a source; `plain` is the grammar without elements. -/
def exports (plain elements : Grammar) (settings : ParserSettings) (path : FilePath)
    (source : String) : Except ParseFailure (List ExportRecord) := do
  let extension ← admitted settings extensions path source
  let grammar := if extension = "tsx" then elements else plain
  let arena := Arena.ofTree source (grammar source)
  arena.checked path
  return recordsFrom arena path 0

end ExportIndex.TypeScript
