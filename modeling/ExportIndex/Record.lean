/-
This file defines the records of exported symbols.
-/

namespace ExportIndex

/-- What an exported symbol is. -/
inductive SymbolKind where
  | function
  | classDefinition
  | variable
  | interface
  | typeAlias
  | reExport
  | component
  | default
  | unknown
deriving DecidableEq, Repr, Inhabited

/-- How importers reach a symbol. -/
inductive ExportKind where
  | named
  | default
  | all
deriving DecidableEq, Repr, Inhabited

/-- A property of an exported interface. -/
structure PropertySignature where
  name : String
  type : String
  optional : Bool
deriving DecidableEq, Repr, Inhabited

/-- A prop that a component takes out of its first parameter. -/
structure ComponentProp where
  name : String
  type : String
deriving DecidableEq, Repr, Inhabited

/-- The types of props are not resolved. -/
def ComponentProp.untyped (name : String) : ComponentProp := ⟨name, "unknown"⟩

/-- The detail that a record of some kind carries. -/
inductive Metadata where
  | properties (properties : List PropertySignature)
  | definition (text : String)
  | props (props : List ComponentProp)
deriving DecidableEq, Repr, Inhabited

structure ExportRecord where
  name : String
  kind : SymbolKind
  /-- A declaration that no export has reached yet is not exported. -/
  exported : Bool
  exportKind : Option ExportKind
  metadata : Option Metadata
deriving DecidableEq, Repr, Inhabited

namespace ExportRecord

/-- The record of a named export. -/
def named (name : String) (kind : SymbolKind) : ExportRecord :=
  ⟨name, kind, true, some .named, none⟩

def ofDefault (name : String) (kind : SymbolKind) : ExportRecord :=
  ⟨name, kind, true, some .default, none⟩

/-- The record of a declaration that is not exported. -/
def internal (name : String) (kind : SymbolKind) : ExportRecord :=
  ⟨name, kind, false, none, none⟩

def withExportKind (record : ExportRecord) (exportKind : Option ExportKind) : ExportRecord :=
  { record with exportKind }

def withMetadata (record : ExportRecord) (metadata : Metadata) : ExportRecord :=
  { record with metadata := some metadata }

def markExported (record : ExportRecord) (exportKind : ExportKind) : ExportRecord :=
  { record with exported := true, exportKind := some exportKind }

def isDefault (record : ExportRecord) : Bool :=
  record.exportKind == some .default

@[simp] theorem markExportedName (record : ExportRecord) (exportKind : ExportKind) :
    (record.markExported exportKind).name = record.name := rfl

@[simp] theorem markExportedExported (record : ExportRecord) (exportKind : ExportKind) :
    (record.markExported exportKind).exported = true := rfl

end ExportRecord

end ExportIndex
