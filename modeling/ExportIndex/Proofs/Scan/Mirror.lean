import ExportIndex.Proofs.Scan.Descent
import ExportIndex.Scan
import Mathlib

/-
This file shows that a scan mirrors the file system. A tree mirrors a directory if it has an
entry for each listed name, in their order, except for the names of directories to skip.
-/

namespace ExportIndex

mutual

/-- The keys of the directories in a tree, at whatever depth. -/
def Directory.directoryKeys : Directory → List String
  | .ofList entries => Directory.directoryKeysOf entries

def Directory.directoryKeysOf : List (String × DirectoryEntry) → List String
  | [] => []
  | (key, entry) :: rest => entry.directoryKeysUnder key ++ Directory.directoryKeysOf rest

def DirectoryEntry.directoryKeysUnder (key : String) : DirectoryEntry → List String
  | .file _ => []
  | .directory directory => key :: directory.directoryKeys

end

theorem Directory.directoryKeysOf_append (first second : List (String × DirectoryEntry)) :
    directoryKeysOf (first ++ second) = directoryKeysOf first ++ directoryKeysOf second := by
  induction first with
  | nil => rfl
  | cons entry rest ih =>
    obtain ⟨key, entry⟩ := entry
    rw [List.cons_append, directoryKeysOf, directoryKeysOf, ih, List.append_assoc]

/-- Where every parser fails there are no records. -/
theorem Extraction.records_of_failed {results : List (Except ParseFailure (List ExportRecord))}
    (failed : (ofResults results).failed = true) : (ofResults results).records = [] := by
  have failures : ∀ result ∈ results, isFailure result = true :=
    List.all_eq_true.mp (Bool.and_eq_true_iff.mp failed).2
  have nothing : results.filterMap batch? = [] := by
    refine List.filterMap_eq_nil_iff.mpr fun result member => ?_
    cases result with
    | error failure => rfl
    | ok records => cases failures _ member
  rw [ofResults, nothing]
  rfl

namespace Scan

/-- What an entry reports that leads to no directory. Only a file that can be read, is
admitted and can be parsed reports anything. -/
inductive FileMirrors (scanner : Scanner) (name : String) :
    Option FileContent → FileExports → Prop where
  | parsed {bytes : List UInt8} (admitted : scanner.admits name bytes = true)
      (parses : (scanner.extraction name bytes).failed = false) :
      FileMirrors scanner name (some (.file bytes true))
        (shape scanner.settings.mode (scanner.extraction name bytes).records)
  | silent {content : Option FileContent} {exports : FileExports}
      (fails : ∀ bytes, content = some (.file bytes true) → scanner.admits name bytes = true →
        (scanner.extraction name bytes).failed = true)
      (empty : exports = shape scanner.settings.mode []) :
      FileMirrors scanner name content exports

mutual

/-- A tree mirrors the directory at a path for a walk that has entered some places. -/
inductive Mirrors (scanner : Scanner) :
    List (List String) → List String → Directory → Prop where
  | cut {entered : List (List String)} {path place : List String}
      (canonical : scanner.system.canonical? path = some place) (inside : place ∈ entered) :
      Mirrors scanner entered path .empty
  | unlisted {entered : List (List String)} {path : List String}
      (fails : scanner.system.listing? path = none) : Mirrors scanner entered path .empty
  | listed {entered : List (List String)} {path place names : List String}
      {entries : List (String × DirectoryEntry)}
      (canonical : scanner.system.canonical? path = some place) (outside : place ∉ entered)
      (lists : scanner.system.listing? path = some names)
      (mirrored : EntriesMirror scanner (place :: entered) path names entries) :
      Mirrors scanner entered path (.ofList entries)

/-- Entries mirror what is listed under some names in the directory at a path. -/
inductive EntriesMirror (scanner : Scanner) :
    List (List String) → List String → List String → List (String × DirectoryEntry) → Prop where
  | nil {entered : List (List String)} {path : List String} :
      EntriesMirror scanner entered path [] []
  | cons {entered : List (List String)} {path names : List String} {name : String}
      {here behind : List (String × DirectoryEntry)}
      (first : EntryMirrors scanner entered path name here)
      (rest : EntriesMirror scanner entered path names behind) :
      EntriesMirror scanner entered path (name :: names) (here ++ behind)

/-- A directory to skip has no entry under its name, and anything else has one. -/
inductive EntryMirrors (scanner : Scanner) :
    List (List String) → List String → String → List (String × DirectoryEntry) → Prop where
  | skipped {entered : List (List String)} {path : List String} {name : String}
      {listable : Bool}
      (leads : scanner.system.target? (path ++ [name]) = some (.directory listable))
      (skips : scanner.settings.skips name = true) : EntryMirrors scanner entered path name []
  | directory {entered : List (List String)} {path : List String} {name : String}
      {listable : Bool} {inner : Directory}
      (leads : scanner.system.target? (path ++ [name]) = some (.directory listable))
      (keeps : scanner.settings.skips name = false)
      (below : Mirrors scanner entered (path ++ [name]) inner) :
      EntryMirrors scanner entered path name [(name ++ "/", .directory inner)]
  | file {entered : List (List String)} {path : List String} {name : String}
      {exports : FileExports}
      (leads : ∀ listable,
        scanner.system.target? (path ++ [name]) ≠ some (.directory listable))
      (reports : FileMirrors scanner name (scanner.system.target? (path ++ [name])) exports) :
      EntryMirrors scanner entered path name [(name, .file exports)]

end

/-- Whatever is read of an entry mirrors it. -/
theorem Scanner.Reading.mirrors {scanner : Scanner} {name : String}
    {content : Option FileContent} {exports : FileExports} {count : ScanMetrics → ScanMetrics}
    (reading : scanner.Reading name content exports count) :
    FileMirrors scanner name content exports := by
  cases reading with
  | lost nothing => exact .silent (fun bytes readable => absurd readable (nothing bytes true)) rfl
  | refused refused =>
    refine .silent (fun bytes readable admitted => ?_) rfl
    cases readable
    simp [refused] at admitted
  | unreadable admitted =>
    refine .silent (fun bytes readable => ?_) rfl
    cases readable
  | @parsed bytes admitted =>
    cases failed : (scanner.extraction name bytes).failed with
    | false => exact .parsed admitted failed
    | true =>
      refine .silent (fun other readable _ => ?_) ?_
      · cases readable
        exact failed
      · exact congrArg _ (Extraction.records_of_failed failed)

/-- What a tree mirrors that a task results in. -/
def Mirrored (scanner : Scanner) (entered : List (List String)) (tree : Directory) : Task → Prop
  | .directory path => Mirrors scanner entered path tree
  | .contents path =>
    match scanner.system.listing? path with
    | none => tree = .empty
    | some names => EntriesMirror scanner entered path names tree.toList
  | .entries path names found =>
    ∃ added, tree.toList = found.toList ++ added ∧ EntriesMirror scanner entered path names added
  | .entry path found name =>
    ∃ added, tree.toList = found.toList ++ added ∧ EntryMirrors scanner entered path name added

theorem Descent.mirrored {scanner : Scanner} {entered : List (List String)} {task : Task}
    {metrics counted : ScanMetrics} {tree : Directory}
    (descent : Descent scanner entered task metrics tree counted) :
    Mirrored scanner entered tree task := by
  induction descent with
  | nowhere leads _ ih =>
    have fails := FileSystem.listing?_nowhere leads
    rw [Mirrored, fails] at ih
    exact ih ▸ .unlisted fails
  | cut canonical inside => exact .cut canonical inside
  | @enter entered path place tree metrics counted canonical outside _ ih =>
    rw [Mirrored] at ih
    cases lists : scanner.system.listing? path with
    | none =>
      rw [lists] at ih
      exact ih ▸ .unlisted lists
    | some names =>
      rw [lists] at ih
      cases tree with
      | ofList entries => exact .listed canonical outside lists ih
  | listed lists _ ih =>
    obtain ⟨added, grown, mirrored⟩ := ih
    rw [Mirrored, lists]
    exact grown ▸ mirrored
  | unlisted fails =>
    rw [Mirrored, fails]
  | done => exact ⟨[], (List.append_nil _).symm, .nil⟩
  | proceed _ _ first rest =>
    obtain ⟨here, grown, mirrors⟩ := first
    obtain ⟨behind, grownOn, mirrored⟩ := rest
    refine ⟨here ++ behind, ?_, .cons mirrors mirrored⟩
    rw [grownOn, grown, List.append_assoc]
  | skip leads skips => exact ⟨[], (List.append_nil _).symm, .skipped leads skips⟩
  | descend leads keeps _ below =>
    exact ⟨_, Directory.toListAddDirectory _ _ _, .directory leads keeps below⟩
  | read leads reading =>
    exact ⟨_, Directory.toListAddFile _ _ _, .file leads reading.mirrors⟩

mutual

theorem Mirrors.keys_kept {scanner : Scanner} :
    ∀ {entered path tree}, Mirrors scanner entered path tree → ∀ key ∈ tree.directoryKeys,
      ∃ name, scanner.settings.skips name = false ∧ key = name ++ "/"
  | _, _, _, .cut _ _, _, member | _, _, _, .unlisted _, _, member =>
    absurd member List.not_mem_nil
  | _, _, _, .listed _ _ _ mirrored, key, member => mirrored.keys_kept key member

theorem EntriesMirror.keys_kept {scanner : Scanner} :
    ∀ {entered path names entries}, EntriesMirror scanner entered path names entries →
      ∀ key ∈ Directory.directoryKeysOf entries,
        ∃ name, scanner.settings.skips name = false ∧ key = name ++ "/"
  | _, _, _, _, .nil, _, member => absurd member List.not_mem_nil
  | _, _, _, _, .cons first rest, key, member => by
    rw [Directory.directoryKeysOf_append] at member
    rcases List.mem_append.mp member with here | behind
    · exact first.keys_kept key here
    · exact rest.keys_kept key behind

theorem EntryMirrors.keys_kept {scanner : Scanner} :
    ∀ {entered path name entries}, EntryMirrors scanner entered path name entries →
      ∀ key ∈ Directory.directoryKeysOf entries,
        ∃ name, scanner.settings.skips name = false ∧ key = name ++ "/"
  | _, _, _, _, .skipped _ _, _, member => absurd member List.not_mem_nil
  | _, _, name, _, .directory _ keeps below, key, member => by
    rw [Directory.directoryKeysOf, Directory.directoryKeysOf, List.append_nil] at member
    rcases List.mem_cons.mp member with here | deeper
    · exact ⟨name, keeps, here⟩
    · exact below.keys_kept key deeper
  | _, _, _, _, .file _ _, _, member => absurd member List.not_mem_nil

end

/-- A name that is not skipped makes no key that looks skipped. -/
theorem key_visible {settings : ScanSettings} {name : String}
    (keeps : settings.skips name = false) :
    (name ++ "/").toList.head? ≠ some '.' ∧
      ∀ skipped ∈ settings.skippedNames, name ++ "/" ≠ skipped ++ "/" := by
  obtain ⟨shown, listed⟩ := Bool.or_eq_false_iff.mp keeps
  constructor
  · intro hidden
    rw [String.toList_append, List.head?_append] at hidden
    cases first : name.toList.head? with
    | none => simp [first] at hidden
    | some letter => simp_all
  · intro skipped member same
    have named : name = skipped := (String.append_left_inj "/").mp same
    simp_all

/-- A scan goes as deep as its directory if that can be listed. -/
theorem Scanner.scan_starts {scanner : Scanner} {root : String} {path : List String}
    (valid : scanner.settings.fault? = none)
    (listable : scanner.system.target? path = some (.directory true)) :
    ∃ tree metrics, scanner.scan root path = .ok (tree, metrics) ∧
      Descent scanner [] (.directory path) .zero tree metrics := by
  have starts : scanner.refusal? root path = none := by
    obtain ⟨place, canonical, holds⟩ := Option.bind_eq_some_iff.mp listable
    rw [FileSystem.canonical?] at canonical
    cases leads : scanner.system.resolve path with
    | error fault =>
      rw [leads] at canonical
      cases canonical
    | ok other =>
      rw [leads] at canonical
      obtain rfl : other = place := Option.some.inj canonical
      simp only [refusal?, valid, leads, holds]
  refine ⟨_, _, ?_, (Task.directory path).descends scanner .start⟩
  rw [scan, starts]
  rfl

/-- A scan of a directory that can be listed succeeds, whatever is below it, and its tree
mirrors the file system. -/
theorem scan_mirrors_file_system (scanner : Scanner) (root : String) (path : List String)
    (valid : scanner.settings.fault? = none)
    (listable : scanner.system.target? path = some (.directory true)) :
    ∃ tree metrics, scanner.scan root path = .ok (tree, metrics) ∧
      Mirrors scanner [] path tree ∧
      ∀ key ∈ tree.directoryKeys, key.toList.head? ≠ some '.' ∧
        ∀ skipped ∈ scanner.settings.skippedNames, key ≠ skipped ++ "/" := by
  obtain ⟨tree, metrics, result, descent⟩ := Scanner.scan_starts valid listable
  have mirrors : Mirrors scanner [] path tree := descent.mirrored
  refine ⟨tree, metrics, result, mirrors, fun key member => ?_⟩
  obtain ⟨name, keeps, rfl⟩ := mirrors.keys_kept key member
  exact key_visible keeps

/-- Files that cannot be read, a link to nothing, one with an absolute target, a hidden directory and
one with a link back to the root. -/
def cluttered : Scanner := Project.scanner
  ⟨⟨[(["lib"], .directory true), (["lib", "up"], .link ".."), ([".git"], .directory true),
    (["gone"], .link "nowhere"), (["again"], .link "/lib"), (["secret.js"], .file [] false)]⟩,
    fun _ => none, .standard⟩

theorem scan_mirrors_file_system_cluttered :
    ∃ tree metrics, cluttered.scan "lib/up" ["lib", "up"] = .ok (tree, metrics) ∧
      Mirrors cluttered [] ["lib", "up"] tree ∧
      ∀ key ∈ tree.directoryKeys, key.toList.head? ≠ some '.' ∧
        ∀ skipped ∈ cluttered.settings.skippedNames, key ≠ skipped ++ "/" :=
  scan_mirrors_file_system cluttered "lib/up" ["lib", "up"] (by decide) (by cbv)

end Scan

end ExportIndex
