import ExportIndex.Admission
import ExportIndex.AnonymousDefault
import ExportIndex.Arena.Check
import ExportIndex.Arena.OfTree
import ExportIndex.Component.Template
import ExportIndex.Record.Merge

/-
This file collects the exported components of modules with elements.
-/

namespace ExportIndex.Component

def extensions : List String := ["jsx", "tsx"]

def anonymousDefault : AnonymousDefault := .literal "default"

/-- The components that were found and the names that are exported elsewhere than at
their declaration. -/
structure Discovery where
  records : List ExportRecord
  exportedNames : List (String × ExportKind)
deriving Repr

namespace Discovery

def empty : Discovery := ⟨[], []⟩

/-- Exports the first of the records with a name. -/
def promote (name : String) (kind : ExportKind) : List ExportRecord → List ExportRecord
  | [] => []
  | record :: rest =>
    if record.name = name then record.markExported kind :: rest
    else record :: promote name kind rest

/-- Adds a function if it is a component. One that is known already is only exported. -/
def addCandidate (discovery : Discovery) (arena : Arena) (name : String) (function : Nat)
    (exportKind : Option ExportKind) : Discovery :=
  if isComponent arena function then
    if discovery.records.any fun record => record.name == name then
      match exportKind with
      | some kind => { discovery with records := promote name kind discovery.records }
      | none => discovery
    else
      let record := match exportKind with
        | some kind => (ExportRecord.named name .component).withExportKind (some kind)
        | none => .internal name .component
      { discovery with
        records := discovery.records ++ [record.withMetadata (.props (props arena function))] }
  else discovery

/-- A declaration may follow, so the name is only noted. -/
def exportByName (discovery : Discovery) (name : String) (kind : ExportKind) : Discovery :=
  { discovery with exportedNames := discovery.exportedNames ++ [(name, kind)] }

/-- The exported components, one for each name. -/
def finish (discovery : Discovery) : List ExportRecord :=
  ExportRecord.dedup ((discovery.exportedNames.foldl (fun records (name, kind) =>
    promote name kind records) discovery.records).filter ExportRecord.exported)

end Discovery

/-- The name and the value of a declarator that binds a single name. -/
def boundValue? (arena : Arena) (declarator : Nat) : Option (Nat × Nat) := do
  let name ← (arena.field? declarator "name").filter fun name =>
    arena.kind name == "identifier"
  return (name, ← arena.field? declarator "value")

def visitDeclaration (arena : Arena) (discovery : Discovery) (declaration : Nat)
    (exportKind : Option ExportKind) : Discovery :=
  if arena.kind declaration = "function_declaration" then
    match arena.field? declaration "name" with
    | some name => discovery.addCandidate arena (arena.text name) declaration exportKind
    | none => discovery
  else if ["lexical_declaration", "variable_declaration"].contains (arena.kind declaration) then
    ((arena.namedChildren declaration).filterMap (boundValue? arena)).foldl
      (fun discovery (name, value) =>
        discovery.addCandidate arena (arena.text name) value exportKind) discovery
  else discovery

def visitDefault (arena : Arena) (path : FilePath) (discovery : Discovery) (id : Nat) :
    Discovery :=
  match (arena.field? id "declaration").or (arena.field? id "value") with
  | none => discovery
  | some target =>
    if arena.kind target = "identifier" then
      discovery.exportByName (arena.text target) .default
    else
      let name := ((arena.field? target "name").map arena.text).getD
        (anonymousDefault.nameFor path)
      discovery.addCandidate arena name target (some .default)

def visitExport (arena : Arena) (path : FilePath) (discovery : Discovery) (id : Nat) :
    Discovery :=
  if (arena.childOfKind? id "default").isSome then visitDefault arena path discovery id
  else
    let discovery := match arena.field? id "declaration" with
      | some declaration => visitDeclaration arena discovery declaration (some .named)
      | none => discovery
    match arena.childOfKind? id "export_clause" with
    | some clause =>
      ((arena.namedChildren clause).filterMap (arena.field? · "name")).foldl
        (fun discovery name => discovery.exportByName (arena.text name) .named) discovery
    | none => discovery

/-- Only statements of the file itself count. -/
def visit (arena : Arena) (path : FilePath) (discovery : Discovery) (id : Nat) : Discovery :=
  if (arena.parent? id).any fun parent => arena.kind parent == "program" then
    if arena.kind id = "export_statement" then visitExport arena path discovery id
    else visitDeclaration arena discovery id none
  else discovery

/-- The records of what is reached from a node. -/
def recordsFrom (arena : Arena) (path : FilePath) (start : Nat) : List ExportRecord :=
  ((arena.walk start).foldl (visit arena path) .empty).finish

/-- The exported components of a source; `untyped` is the grammar of files whose
extension is `jsx`. -/
def exports (untyped typed : Grammar) (settings : ParserSettings) (path : FilePath)
    (source : String) : Except ParseFailure (List ExportRecord) := do
  let extension ← admitted settings extensions path source
  let grammar := if extension = "jsx" then untyped else typed
  let arena := Arena.ofTree source (grammar source)
  arena.checked path
  return recordsFrom arena path 0

end ExportIndex.Component
