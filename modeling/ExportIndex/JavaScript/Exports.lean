import ExportIndex.Admission
import ExportIndex.AnonymousDefault
import ExportIndex.JavaScript.Ladder
import ExportIndex.Record

/-
This file collects the exports of untyped sources: those of modules, and the members
that are assigned to `exports` or to `module.exports`.
-/

namespace ExportIndex.JavaScript

def anonymousDefault : AnonymousDefault := .capitalizedStem

/-- Records in the order of their discovery, one for each name. -/
structure Collection where
  records : List ExportRecord
deriving Repr

namespace Collection

def empty : Collection := ⟨[]⟩

def hasName (collection : Collection) (name : String) : Bool :=
  collection.records.any fun record => record.name == name

/-- A record without a name or with one that is taken changes nothing. -/
def add (collection : Collection) (record : ExportRecord) : Collection :=
  if record.name = "" || collection.hasName record.name then collection
  else ⟨collection.records ++ [record]⟩

def addAll (collection : Collection) (records : List ExportRecord) : Collection :=
  records.foldl add collection

end Collection

/-- The kind of symbol that a function or class is. -/
def callableKind? (kind : String) : Option SymbolKind :=
  if ["function_declaration", "generator_function_declaration", "function",
      "function_expression", "generator_function"].contains kind then some .function
  else if ["class_declaration", "class"].contains kind then some .classDefinition
  else none

/-- The names in an export clause; a name that is a string gives no record. -/
def specifierName? (arena : Arena) (specifier : Nat) : Option Nat :=
  if arena.kind specifier = "export_specifier" then
    ((arena.field? specifier "alias").or (arena.field? specifier "name")).filter
      fun name => arena.kind name == "identifier"
  else none

def clauseRecords (arena : Arena) (clause : Nat) : List ExportRecord :=
  ((arena.namedChildren clause).filterMap (specifierName? arena)).map fun name =>
    .named (arena.text name) .reExport

def declarationRecords (arena : Arena) (declaration : Nat) : List ExportRecord :=
  if ["lexical_declaration", "variable_declaration"].contains (arena.kind declaration) then
    ((arena.namedChildren declaration).filterMap (declaratorName? arena)).map fun name =>
      .named (arena.text name) .variable
  else
    match callableKind? (arena.kind declaration), arena.field? declaration "name" with
    | some kind, some name => [.named (arena.text name) kind]
    | _, _ => []

/-- What a default export is the default of. -/
def defaultTarget? (arena : Arena) (id : Nat) : Option Nat :=
  (arena.field? id "declaration").or (arena.field? id "value")

def defaultRecord (arena : Arena) (path : FilePath) (id : Nat) : ExportRecord :=
  let named := do
    let target ← defaultTarget? arena id
    let kind ← callableKind? (arena.kind target)
    let name ← arena.field? target "name"
    return ExportRecord.ofDefault (arena.text name) kind
  named.getD (.ofDefault (anonymousDefault.nameFor path) .default)

/-- The key of a member of an object if it is a plain name. -/
def memberKey? (arena : Arena) (member : Nat) : Option String := do
  let key ← match arena.kind member with
    | "shorthand_property_identifier" => some member
    | "pair" => arena.field? member "key"
    | "method_definition" => arena.field? member "name"
    | _ => none
  if ["property_identifier", "shorthand_property_identifier"].contains (arena.kind key) then
    some (arena.text key)
  else none

/-- The records of a value that is assigned to a property of a variable. -/
def propertyRecords (arena : Arena) (id object property : Nat) : List ExportRecord :=
  if arena.text object = "module" && arena.text property = "exports" then
    match (arena.field? id "right").filter fun right => arena.kind right == "object" with
    | some right => ((arena.namedChildren right).filterMap (memberKey? arena)).map
        (.named · .unknown)
    | none => []
  else if arena.text object = "exports" && arena.kind property = "property_identifier" then
    [.named (arena.text property) .unknown]
  else []

def assignmentRecords (arena : Arena) (id : Nat) : List ExportRecord :=
  match (arena.field? id "left").filter fun left => arena.kind left == "member_expression" with
  | none => []
  | some left =>
    match arena.field? left "object", arena.field? left "property" with
    | some object, some property =>
      if arena.kind object = "identifier" then propertyRecords arena id object property else []
    | _, _ => []

/-- Adds the records of an export statement. -/
def visitExport (arena : Arena) (path : FilePath) (collection : Collection) (id : Nat) :
    Collection :=
  if (arena.childOfKind? id "default").isSome then
    collection.add (defaultRecord arena path id)
  else
    let declared := ((arena.field? id "declaration").map (declarationRecords arena)).getD []
    let listed := ((arena.childOfKind? id "export_clause").map (clauseRecords arena)).getD []
    (collection.addAll declared).addAll listed

/-- Adds the records of a node. -/
def visit (arena : Arena) (path : FilePath) (collection : Collection) (id : Nat) :
    Collection :=
  match arena.kind id with
  | "export_statement" => visitExport arena path collection id
  | "assignment_expression" => collection.addAll (assignmentRecords arena id)
  | _ => collection

/-- The records of what is reached from a node. -/
def recordsFrom (arena : Arena) (path : FilePath) (start : Nat) : List ExportRecord :=
  ((arena.walk start).foldl (visit arena path) .empty).records

/-- The exports of a source. -/
def exports (grammar : Grammar) (settings : ParserSettings) (path : FilePath)
    (source : String) : Except ParseFailure (List ExportRecord) := do
  let extension ← admitted settings extensions path source
  let arena ← accepted grammar path extension source
  return recordsFrom arena path 0

end ExportIndex.JavaScript
