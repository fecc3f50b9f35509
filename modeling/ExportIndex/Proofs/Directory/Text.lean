import ExportIndex.Directory
import ExportIndex.Proofs.Json.RoundTrip
import Mathlib

/-
This file shows that the text of a directory tree gives the tree back. Directories, lists of names
and lists of records are told apart by their JSON alone, and only empty lists are not.
-/

namespace ExportIndex

namespace FileExports

/-- An empty list says nothing of its items, and counts as one of names. -/
def settled : FileExports → FileExports
  | records [] => names []
  | exports => exports

def ofJson? (json : Json) : Option FileExports :=
  (json.toListOf? Json.toText?).map names <|>
    (json.toListOf? ExportRecord.ofJson?).map records

theorem toListOf?_names (items : List String) :
    (Json.list (items.map .text)).toListOf? Json.toText? = some items :=
  toListOf?_restated (restates_listOf items fun _ => .plain _) ScanSettings.toText?_restated

theorem toListOf?_records (items : List ExportRecord) :
    (Json.list (items.map ExportRecord.toJson)).toListOf? ExportRecord.ofJson? = some items :=
  toListOf?_restated (restates_listOf items ExportRecord.shaped) ExportRecord.ofJson?_restated

/-- A list that begins with a record is not one of texts, since a record is an object. -/
theorem toListOf?_text_record (record : ExportRecord) (rest : List ExportRecord) :
    (Json.list ((record :: rest).map ExportRecord.toJson)).toListOf? Json.toText? = none := by
  simp [Json.toListOf?, Json.toList?, ExportRecord.toJson, Json.toText?]

theorem ofJson?_toJson (exports : FileExports) :
    ofJson? exports.toJson = some exports.settled := by
  cases exports with
  | names items => simp [toJson, ofJson?, toListOf?_names, settled]
  | records items =>
    cases items with
    | nil => rfl
    | cons record rest =>
      rw [toJson, ofJson?, toListOf?_text_record, toListOf?_records]
      rfl

theorem toJson_settled (exports : FileExports) : exports.settled.toJson = exports.toJson := by
  unfold settled
  split
  · rfl
  · rfl

theorem integral (exports : FileExports) : exports.toJson.Integral := by
  cases exports with
  | names items => exact integral_list fun _ => trivial
  | records items => exact integral_list ExportRecord.integral

end FileExports

mutual

/-- A JSON value depicts a directory: an object with one member for each entry, in their order and
under their keys. -/
inductive Depicts : Directory → Json → Prop
  | object {entries : List (String × DirectoryEntry)} {members : List (String × Json)}
      (inOrder : DepictsEntries entries members) : Depicts (.ofList entries) (.object members)

inductive DepictsEntries : List (String × DirectoryEntry) → List (String × Json) → Prop
  | nil : DepictsEntries [] []
  | cons {key : String} {entry : DirectoryEntry} {value : Json}
      {rest : List (String × DirectoryEntry)} {members : List (String × Json)}
      (depicted : DepictsEntry entry value) (behind : DepictsEntries rest members) :
      DepictsEntries ((key, entry) :: rest) ((key, value) :: members)

inductive DepictsEntry : DirectoryEntry → Json → Prop
  | directory {directory : Directory} {json : Json} (depicted : Depicts directory json) :
      DepictsEntry (.directory directory) json
  | names (items : List String) : DepictsEntry (.file (.names items)) (.list (items.map .text))
  /-- Each record is an object that it is read from. -/
  | records {items : List ExportRecord} {objects : List Json}
      (each : List.Forall₂ (fun record json => (∃ members, json = .object members) ∧
        ExportRecord.ofJson? json = some record) items objects) :
      DepictsEntry (.file (.records items)) (.list objects)

end

namespace Directory

mutual

/-- The tree with lists that are empty taken for lists of names. -/
def settled : Directory → Directory
  | ofList entries => ofList (settledEntries entries)

def settledEntries : List (String × DirectoryEntry) → List (String × DirectoryEntry)
  | [] => []
  | (key, entry) :: rest => (key, settledEntry entry) :: settledEntries rest

def settledEntry : DirectoryEntry → DirectoryEntry
  | .file exports => .file exports.settled
  | .directory directory => .directory (settled directory)

end

mutual

def ofJson? : Json → Option Directory
  | .object members => (entriesOf? members).map ofList
  | _ => none

def entriesOf? : List (String × Json) → Option (List (String × DirectoryEntry))
  | [] => some []
  | (key, value) :: rest => do
    let entry ← entryOf? value
    let entries ← entriesOf? rest
    return (key, entry) :: entries

/-- An object is a directory, anything else has to be what is reported of a file. -/
def entryOf? : Json → Option DirectoryEntry
  | .object members => (entriesOf? members).map fun entries => .directory (ofList entries)
  | json => (FileExports.ofJson? json).map .file

end

theorem entryOf?_toJson (exports : FileExports) :
    entryOf? exports.toJson = (FileExports.ofJson? exports.toJson).map .file := by
  cases exports <;> rfl

theorem entryOf?_ofJson? (directory : Directory) :
    entryOf? directory.toJson = (ofJson? directory.toJson).map .directory := by
  cases directory
  rw [toJson, entryOf?, ofJson?, Option.map_map]
  rfl

mutual

theorem ofJson?_toJson : (directory : Directory) →
    ofJson? directory.toJson = some directory.settled
  | ofList entries => by
    rw [toJson, ofJson?, entriesOf?_membersOf entries, Option.map_some, settled]

theorem entriesOf?_membersOf : (entries : List (String × DirectoryEntry)) →
    entriesOf? (membersOf entries) = some (settledEntries entries)
  | [] => rfl
  | (key, entry) :: rest => by
    rw [membersOf, entriesOf?, entryOf?_entryToJson entry, entriesOf?_membersOf rest,
      settledEntries]
    rfl

theorem entryOf?_entryToJson : (entry : DirectoryEntry) →
    entryOf? (entryToJson entry) = some (settledEntry entry)
  | .file exports => by
    rw [entryToJson, entryOf?_toJson, exports.ofJson?_toJson, Option.map_some,
      settledEntry]
  | .directory directory => by
    rw [entryToJson, entryOf?_ofJson?, ofJson?_toJson directory, Option.map_some, settledEntry]

end

mutual

theorem toJson_settled : (directory : Directory) → directory.settled.toJson = directory.toJson
  | ofList entries => by rw [settled, toJson, membersOf_settled entries, toJson]

theorem membersOf_settled : (entries : List (String × DirectoryEntry)) →
    membersOf (settledEntries entries) = membersOf entries
  | [] => rfl
  | (key, entry) :: rest => by
    rw [settledEntries, membersOf, entryToJson_settled entry, membersOf_settled rest, membersOf]

theorem entryToJson_settled : (entry : DirectoryEntry) →
    entryToJson (settledEntry entry) = entryToJson entry
  | .file exports => by rw [settledEntry, entryToJson, exports.toJson_settled, entryToJson]
  | .directory directory => by
    rw [settledEntry, entryToJson, toJson_settled directory, entryToJson]

end

mutual

theorem depicts_toJson : (directory : Directory) → Depicts directory directory.toJson
  | ofList entries => .object (depicts_membersOf entries)

theorem depicts_membersOf : (entries : List (String × DirectoryEntry)) →
    DepictsEntries entries (membersOf entries)
  | [] => .nil
  | (_, entry) :: rest => .cons (depicts_entryToJson entry) (depicts_membersOf rest)

theorem depicts_entryToJson : (entry : DirectoryEntry) → DepictsEntry entry (entryToJson entry)
  | .file (.names items) => .names items
  | .file (.records items) => by
    refine .records (List.forall₂_map_right_iff.mpr (List.forall₂_same.mpr fun record _ => ?_))
    exact ⟨⟨_, rfl⟩, record.ofJson?_restated _ record.shaped⟩
  | .directory directory => .directory (depicts_toJson directory)

end

mutual

theorem integral : (directory : Directory) → directory.toJson.Integral
  | ofList entries => integral_membersOf entries

theorem integral_membersOf : (entries : List (String × DirectoryEntry)) →
    Json.IntegralMembers (membersOf entries)
  | [] => trivial
  | (_, entry) :: rest => ⟨integral_entryToJson entry, integral_membersOf rest⟩

theorem integral_entryToJson : (entry : DirectoryEntry) → (entryToJson entry).Integral
  | .file exports => exports.integral
  | .directory directory => integral directory

end

/-- Directories with one JSON value are equal up to empty lists. -/
theorem toJson_eq_iff (first second : Directory) :
    first.toJson = second.toJson ↔ first.settled = second.settled := by
  constructor
  · intro same
    have read := ofJson?_toJson first
    rw [same, ofJson?_toJson second] at read
    exact (Option.some.inj read).symm
  · intro same
    rw [← first.toJson_settled, same, second.toJson_settled]

/-- The text of a directory is a JSON text that shows it entry by entry, and a reader takes the
directory from it. So directories have one text if they are equal up to empty lists. -/
theorem text_gives_back :
    (∀ directory : Directory, ∃ json,
      Json.Writes json directory.toJson.pretty.toList ∧
        Json.read? directory.toJson.pretty.toList = some json ∧
        Depicts directory json ∧ ofJson? json = some directory.settled) ∧
      ∀ first second : Directory,
        first.toJson.pretty = second.toJson.pretty ↔ first.settled = second.settled := by
  refine ⟨fun directory => ⟨directory.toJson, Json.prettyAt_writes 0 _ directory.integral,
    Json.read?_pretty directory.integral, directory.depicts_toJson,
    directory.ofJson?_toJson⟩, fun first second => ?_⟩
  rw [← toJson_eq_iff]
  constructor
  · intro same
    have read := Json.read?_pretty first.integral
    rw [same, Json.read?_pretty second.integral] at read
    exact (Option.some.inj read).symm
  · intro same
    rw [same]

end Directory

end ExportIndex
