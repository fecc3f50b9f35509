import ExportIndex.Record.Json

/-
This file defines the result of a scan: a tree of directories whose entries keep
their order. The key of a directory ends in `/`.
-/

namespace ExportIndex

/-- What is reported of a file. -/
inductive FileExports where
  | names (items : List String)
  | records (items : List ExportRecord)
deriving DecidableEq, Repr, Inhabited

namespace FileExports

def count : FileExports → Nat
  | names items => items.length
  | records items => items.length

def nameList : FileExports → List String
  | names items => items
  | records items => items.map ExportRecord.name

def toJson : FileExports → Json
  | names items => .list (items.map .text)
  | records items => .list (items.map ExportRecord.toJson)

end FileExports

mutual
inductive Directory where
  | ofList (entries : List (String × DirectoryEntry))

inductive DirectoryEntry where
  | file (exports : FileExports)
  | directory (directory : Directory)
end

namespace Directory

def empty : Directory := ofList []

instance : Inhabited Directory := ⟨empty⟩

def toList : Directory → List (String × DirectoryEntry)
  | ofList entries => entries

def add (directory : Directory) (key : String) (entry : DirectoryEntry) : Directory :=
  ofList (directory.toList ++ [(key, entry)])

def addFile (directory : Directory) (name : String) (exports : FileExports) : Directory :=
  directory.add name (.file exports)

def addDirectory (directory : Directory) (name : String) (inner : Directory) : Directory :=
  directory.add (name ++ "/") (.directory inner)

def keys (directory : Directory) : List String := directory.toList.map Prod.fst

def count (directory : Directory) : Nat := directory.toList.length

/-- The first entry under a key. -/
def get? (directory : Directory) (key : String) : Option DirectoryEntry :=
  (directory.toList.find? fun entry => entry.1 = key).map Prod.snd

def file? (directory : Directory) (name : String) : Option FileExports :=
  match directory.get? name with
  | some (.file exports) => some exports
  | _ => none

def directory? (directory : Directory) (name : String) : Option Directory :=
  match directory.get? (name ++ "/") with
  | some (.directory inner) => some inner
  | _ => none

mutual
def toJson : Directory → Json
  | ofList entries => .object (membersOf entries)

def membersOf : List (String × DirectoryEntry) → List (String × Json)
  | [] => []
  | (key, entry) :: rest => (key, entryToJson entry) :: membersOf rest

def entryToJson : DirectoryEntry → Json
  | .file exports => exports.toJson
  | .directory directory => toJson directory
end

@[simp] theorem toListEmpty : empty.toList = [] := rfl

@[simp] theorem toListAddFile (directory : Directory) (name : String) (exports : FileExports) :
    (directory.addFile name exports).toList = directory.toList ++ [(name, .file exports)] := rfl

@[simp] theorem toListAddDirectory (directory : Directory) (name : String) (inner : Directory) :
    (directory.addDirectory name inner).toList =
      directory.toList ++ [(name ++ "/", .directory inner)] := rfl

@[simp] theorem keysEmpty : empty.keys = [] := rfl

@[simp] theorem keysAdd (directory : Directory) (key : String) (entry : DirectoryEntry) :
    (directory.add key entry).keys = directory.keys ++ [key] := by
  simp [keys, add, toList]

end Directory

end ExportIndex
