import ExportIndex.Directory
import Mathlib

/-
This file says what is found in a directory that files and directories were inserted into. Both are
in one list and names may repeat, so nothing but the slash behind the name of a directory keeps them
apart.
-/

namespace ExportIndex.Directory

inductive Insertion where
  | file (name : String) (exports : FileExports)
  | directory (name : String) (inner : Directory)

/-- The key is one that a directory has. -/
def EndsInSlash (key : String) : Prop := key.toList.getLast? = some '/'

instance (key : String) : Decidable (EndsInSlash key) := inferInstanceAs (Decidable (_ = _))

namespace Insertion

def key : Insertion → String
  | file name _ => name
  | directory name _ => name ++ "/"

def entry : Insertion → DirectoryEntry
  | file _ exports => .file exports
  | directory _ inner => .directory inner

def isFile : Insertion → Bool
  | file _ _ => true
  | directory _ _ => false

/-- The directory after an insertion. -/
def into (directory : Directory) : Insertion → Directory
  | file name exports => directory.addFile name exports
  | .directory name inner => directory.addDirectory name inner

/-- A file is not named like the key of a directory. -/
def Named : Insertion → Prop
  | file name _ => ¬ EndsInSlash name
  | directory _ _ => True

def IsFile (name : String) (insertion : Insertion) : Prop :=
  ∃ exports, insertion = .file name exports

def IsDirectory (name : String) (insertion : Insertion) : Prop :=
  ∃ inner, insertion = .directory name inner

end Insertion

/-- The directory after some insertions, one after the other. -/
def insertAll (directory : Directory) (insertions : List Insertion) : Directory :=
  insertions.foldl Insertion.into directory

/-- An insertion is the first one of a kind. -/
def IsFirst (kind : Insertion → Prop) (insertions : List Insertion) (insertion : Insertion) :
    Prop :=
  kind insertion ∧ ∃ before after, insertions = before ++ insertion :: after ∧
    ∀ earlier ∈ before, ¬ kind earlier

variable {directory : Directory} {insertions others : List Insertion} {insertion : Insertion}
  {kind : Insertion → Prop} {name key : String}

section Keys

theorem endsInSlash_append (name : String) : EndsInSlash (name ++ "/") := by
  have slash : "/".toList = ['/'] := rfl
  rw [EndsInSlash, String.toList_append, slash, List.getLast?_concat]

theorem Insertion.key_eq_iff_isFile (plain : ¬ EndsInSlash name) :
    insertion.key = name ↔ insertion.IsFile name := by
  cases insertion with
  | file own exports => simp [key, IsFile]
  | directory own inner =>
    have apart : own ++ "/" ≠ name := fun same => plain (same ▸ endsInSlash_append own)
    simp [key, IsFile, apart]

theorem Insertion.key_eq_iff_isDirectory (named : insertion.Named) :
    insertion.key = name ++ "/" ↔ insertion.IsDirectory name := by
  cases insertion with
  | file own exports =>
    have apart : own ≠ name ++ "/" := fun same => named (same ▸ endsInSlash_append name)
    simp [key, IsDirectory, apart]
  | directory own inner => simp [key, IsDirectory]

theorem Insertion.endsInSlash_key (named : insertion.Named) :
    EndsInSlash insertion.key ↔ insertion.isFile = false := by
  cases insertion with
  | file own exports => exact iff_of_false named Bool.true_eq_false_eq_False
  | directory own inner => exact iff_of_true (endsInSlash_append own) rfl

end Keys

section First

theorem isFirst_iff_find? [DecidablePred kind] :
    IsFirst kind insertions insertion ↔
      insertions.find? (fun other => kind other) = some insertion := by
  rw [IsFirst, List.find?_eq_some_iff_append]
  simp

theorem IsFirst.mem (first : IsFirst kind insertions insertion) : insertion ∈ insertions := by
  obtain ⟨-, before, after, rfl, -⟩ := first
  simp

theorem IsFirst.congr {other : Insertion → Prop}
    (same : ∀ insertion ∈ insertions, kind insertion ↔ other insertion) :
    IsFirst kind insertions insertion ↔ IsFirst other insertions insertion := by
  classical
  rw [isFirst_iff_find?, isFirst_iff_find?,
    List.find?_congr fun insertion member => decide_eq_decide.mpr (same insertion member)]

/-- Insertions that are of no such kind may be left out. -/
theorem isFirst_filter {keep : Insertion → Bool}
    (kept : ∀ insertion, kind insertion → keep insertion = true) :
    IsFirst kind (insertions.filter keep) insertion ↔ IsFirst kind insertions insertion := by
  classical
  rw [isFirst_iff_find?, isFirst_iff_find?, List.find?_filter]
  have same (other : Insertion) : decide (keep other = true ∧ kind other) = decide (kind other) :=
    decide_eq_decide.mpr ⟨And.right, fun holds => ⟨kept other holds, holds⟩⟩
  simp only [decide_eq_true_eq, same]

theorem exists_isFirst :
    (∃ insertion, IsFirst kind insertions insertion) ↔
      ∃ insertion ∈ insertions, kind insertion := by
  classical
  simp only [isFirst_iff_find?, ← Option.isSome_iff_exists, List.find?_isSome, decide_eq_true_eq]

variable {Value : Type} {form : Value → Insertion} {found other : Option Value}

theorem eq_none_iff_of_isFirst
    (finds : ∀ value, found = some value ↔ IsFirst kind insertions (form value))
    (formed : ∀ insertion, kind insertion → ∃ value, insertion = form value) :
    found = none ↔ ∀ insertion ∈ insertions, ¬ kind insertion := by
  have exists_found :
      (∃ value, found = some value) ↔ ∃ insertion ∈ insertions, kind insertion := by
    simp only [finds, ← exists_isFirst]
    constructor
    · rintro ⟨value, first⟩
      exact ⟨_, first⟩
    · rintro ⟨insertion, first⟩
      obtain ⟨value, rfl⟩ := formed insertion first.1
      exact ⟨value, first⟩
  rw [Option.eq_none_iff_forall_ne_some, ← not_exists, exists_found]
  push Not
  rfl

theorem eq_of_isFirst {keep : Insertion → Bool}
    (finds : ∀ value, found = some value ↔ IsFirst kind insertions (form value))
    (others_find : ∀ value, other = some value ↔ IsFirst kind others (form value))
    (kept : ∀ insertion, kind insertion → keep insertion = true)
    (same : others.filter keep = insertions.filter keep) : other = found := by
  apply Option.ext
  intro value
  rw [finds, others_find, ← isFirst_filter kept, same, isFirst_filter kept]

end First

section Lookups

theorem Insertion.toList_into (directory : Directory) (insertion : Insertion) :
    (insertion.into directory).toList = directory.toList ++ [(insertion.key, insertion.entry)] := by
  cases insertion <;> rfl

theorem toList_insertAll (directory : Directory) (insertions : List Insertion) :
    (directory.insertAll insertions).toList =
      directory.toList ++ insertions.map fun insertion => (insertion.key, insertion.entry) := by
  induction insertions generalizing directory with
  | nil => simp [insertAll]
  | cons insertion rest ih =>
    rw [insertAll, List.foldl_cons, ← insertAll, ih, Insertion.toList_into, List.append_assoc]
    rfl

theorem get?_insertAll_empty (insertions : List Insertion) (key : String) :
    (empty.insertAll insertions).get? key =
      (insertions.find? fun insertion => insertion.key = key).map Insertion.entry := by
  rw [get?, toList_insertAll, toListEmpty, List.nil_append, List.find?_map, Option.map_map]
  rfl

/-- What is found stays found. -/
theorem get?_insertAll {entry : DirectoryEntry} (found : directory.get? key = some entry)
    (later : List Insertion) : (directory.insertAll later).get? key = some entry := by
  obtain ⟨pair, first, rfl⟩ := Option.map_eq_some_iff.mp found
  rw [get?, toList_insertAll, List.find?_append, first]
  rfl

theorem file?_eq_some_iff {exports : FileExports} :
    directory.file? name = some exports ↔ directory.get? name = some (.file exports) := by
  unfold file?
  split <;> simp_all

theorem directory?_eq_some_iff {inner : Directory} :
    directory.directory? name = some inner ↔
      directory.get? (name ++ "/") = some (.directory inner) := by
  unfold directory?
  split <;> simp_all

theorem get?_eq_some_iff {entry : DirectoryEntry} :
    (empty.insertAll insertions).get? key = some entry ↔
      ∃ insertion, IsFirst (·.key = key) insertions insertion ∧ insertion.entry = entry := by
  simp only [get?_insertAll_empty, Option.map_eq_some_iff, isFirst_iff_find?]

/-- A file is not found under a name that only a directory can have for its key. -/
theorem file?_insertAll_eq_some_iff (named : ∀ insertion ∈ insertions, insertion.Named)
    {exports : FileExports} :
    (empty.insertAll insertions).file? name = some exports ↔
      IsFirst (·.IsFile name) insertions (.file name exports) := by
  rw [file?_eq_some_iff, get?_eq_some_iff]
  constructor
  · rintro ⟨insertion, first, entry⟩
    cases insertion with
    | directory own inner => cases entry
    | file own found =>
      cases entry
      obtain rfl : own = name := first.1
      have plain : ¬ EndsInSlash own := named _ first.mem
      exact (IsFirst.congr fun _ _ => Insertion.key_eq_iff_isFile plain).mp first
  · intro first
    have plain : ¬ EndsInSlash name := named _ first.mem
    exact ⟨_, (IsFirst.congr fun _ _ => Insertion.key_eq_iff_isFile plain).mpr first, rfl⟩

theorem directory?_insertAll_eq_some_iff (named : ∀ insertion ∈ insertions, insertion.Named)
    {inner : Directory} :
    (empty.insertAll insertions).directory? name = some inner ↔
      IsFirst (·.IsDirectory name) insertions (.directory name inner) := by
  have same : ∀ insertion ∈ insertions,
      insertion.key = name ++ "/" ↔ insertion.IsDirectory name := fun insertion member =>
    Insertion.key_eq_iff_isDirectory (named insertion member)
  rw [directory?_eq_some_iff, get?_eq_some_iff]
  simp only [IsFirst.congr same]
  constructor
  · rintro ⟨insertion, first, entry⟩
    obtain ⟨found, rfl⟩ := first.1
    cases entry
    exact first
  · intro first
    exact ⟨_, first, rfl⟩

end Lookups

/-- Look-ups find what was first inserted of their kind, and nothing if nothing was. -/
structure FindsFirst (directory : Directory) (insertions : List Insertion) : Prop where
  entry : ∀ key entry, directory.get? key = some entry ↔
    ∃ insertion, IsFirst (·.key = key) insertions insertion ∧ insertion.entry = entry
  noEntry : ∀ key, directory.get? key = none ↔ ∀ insertion ∈ insertions, insertion.key ≠ key
  file : ∀ name exports, directory.file? name = some exports ↔
    IsFirst (·.IsFile name) insertions (.file name exports)
  noFile : ∀ name, directory.file? name = none ↔
    ∀ insertion ∈ insertions, ¬ insertion.IsFile name
  inner : ∀ name inner, directory.directory? name = some inner ↔
    IsFirst (·.IsDirectory name) insertions (.directory name inner)
  noInner : ∀ name, directory.directory? name = none ↔
    ∀ insertion ∈ insertions, ¬ insertion.IsDirectory name

/-- Whatever is found in the one directory is found in the other. -/
structure KeepsFound (directory grown : Directory) : Prop where
  entry : ∀ key entry, directory.get? key = some entry → grown.get? key = some entry
  file : ∀ name exports, directory.file? name = some exports → grown.file? name = some exports
  inner : ∀ name inner, directory.directory? name = some inner →
    grown.directory? name = some inner

/-- Directories find the same files, or the same directories, if the same files, or the same
directories, were inserted into them. -/
structure Independent (insertions others : List Insertion) : Prop where
  file : others.filter Insertion.isFile = insertions.filter Insertion.isFile →
    ∀ name, (empty.insertAll others).file? name = (empty.insertAll insertions).file? name
  inner : others.filter (!·.isFile) = insertions.filter (!·.isFile) →
    ∀ name, (empty.insertAll others).directory? name = (empty.insertAll insertions).directory? name

theorem findsFirst (named : ∀ insertion ∈ insertions, insertion.Named) :
    FindsFirst (empty.insertAll insertions) insertions where
  entry _ _ := get?_eq_some_iff
  noEntry key := by simp [get?_insertAll_empty]
  file _ _ := file?_insertAll_eq_some_iff named
  noFile _ := eq_none_iff_of_isFirst (fun _ => file?_insertAll_eq_some_iff named) fun _ kind => kind
  inner _ _ := directory?_insertAll_eq_some_iff named
  noInner _ :=
    eq_none_iff_of_isFirst (fun _ => directory?_insertAll_eq_some_iff named) fun _ kind => kind

theorem keepsFound (directory : Directory) (later : List Insertion) :
    KeepsFound directory (directory.insertAll later) where
  entry _ _ found := get?_insertAll found later
  file _ _ found := file?_eq_some_iff.mpr (get?_insertAll (file?_eq_some_iff.mp found) later)
  inner _ _ found :=
    directory?_eq_some_iff.mpr (get?_insertAll (directory?_eq_some_iff.mp found) later)

theorem independent (named : ∀ insertion ∈ insertions, insertion.Named)
    (namedOthers : ∀ insertion ∈ others, insertion.Named) : Independent insertions others where
  file same _ := by
    refine eq_of_isFirst (fun _ => file?_insertAll_eq_some_iff named)
      (fun _ => file?_insertAll_eq_some_iff namedOthers) ?_ same
    rintro _ ⟨exports, rfl⟩
    rfl
  inner same _ := by
    refine eq_of_isFirst (fun _ => directory?_insertAll_eq_some_iff named)
      (fun _ => directory?_insertAll_eq_some_iff namedOthers) ?_ same
    rintro _ ⟨inner, rfl⟩
    rfl

theorem keys_insertAll (insertions : List Insertion) :
    (empty.insertAll insertions).keys = insertions.map Insertion.key := by
  rw [keys, toList_insertAll, toListEmpty, List.nil_append, List.map_map]
  rfl

/-- In a directory that has come to be by insertions, in which no file is named like the key of a
directory, look-ups find what was first inserted of their kind, and later insertions leave it so.
Which files are found depends on the insertions of files alone, and so it is for directories. There
is one key for each insertion, in their order, and those that end in a slash are of directories. -/
theorem lookups_find_first_insertions (named : ∀ insertion ∈ insertions, insertion.Named) :
    FindsFirst (empty.insertAll insertions) insertions ∧
    (∀ later, KeepsFound (empty.insertAll insertions)
      ((empty.insertAll insertions).insertAll later)) ∧
    (∀ others : List Insertion, (∀ insertion ∈ others, insertion.Named) →
      Independent insertions others) ∧
    (empty.insertAll insertions).keys = insertions.map Insertion.key ∧
    ∀ insertion ∈ insertions, EndsInSlash insertion.key ↔ insertion.isFile = false :=
  ⟨findsFirst named, keepsFound _, fun _ => independent named, keys_insertAll insertions,
    fun _ member => Insertion.endsInSlash_key (named _ member)⟩

/-- A directory and a file of one name, each of them inserted twice. -/
def twofold : List Insertion :=
  [.directory "lib" (empty.addFile "a.py" (.names ["a"])), .file "lib" (.names ["x"]),
    .file "lib" (.names []), .directory "lib" empty]

/-- Under the name are the first file and the first directory. They are found there also if only
the files, or only the directories, are inserted. -/
theorem lookups_find_first_insertions_of_twofold :
    (∀ insertion ∈ twofold, insertion.Named) ∧
      (empty.insertAll twofold).keys = ["lib/", "lib", "lib", "lib/"] ∧
      (empty.insertAll twofold).file? "lib" = some (.names ["x"]) ∧
      (empty.insertAll twofold).directory? "lib" =
        some (empty.addFile "a.py" (.names ["a"])) ∧
      (empty.insertAll (twofold.filter Insertion.isFile)).file? "lib" = some (.names ["x"]) := by
  have named : ∀ insertion ∈ twofold, insertion.Named := by
    simp [twofold, Insertion.Named, EndsInSlash]
  have filesNamed : ∀ insertion ∈ twofold.filter Insertion.isFile, insertion.Named :=
    fun insertion member => named insertion (List.mem_of_mem_filter member)
  obtain ⟨finds, -, alone, keys, -⟩ := lookups_find_first_insertions named
  have file : (empty.insertAll twofold).file? "lib" = some (.names ["x"]) :=
    (finds.file _ _).mpr ⟨⟨_, rfl⟩, [.directory "lib" (empty.addFile "a.py" (.names ["a"]))], _,
      rfl, by simp [Insertion.IsFile]⟩
  have directory : (empty.insertAll twofold).directory? "lib" =
      some (empty.addFile "a.py" (.names ["a"])) :=
    (finds.inner _ _).mpr ⟨⟨_, rfl⟩, [], _, rfl, by simp⟩
  refine ⟨named, keys.trans rfl, file, directory, ?_⟩
  rw [(alone _ filesNamed).file (by simp) "lib", file]

end ExportIndex.Directory
