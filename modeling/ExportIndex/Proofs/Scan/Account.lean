import ExportIndex.Proofs.Scan.Mirror
import Mathlib

/-
This file checks the counters of a scan against its tree. A tally counts without a bound; the
counters of a scan are a tally in words of 64 bits.
-/

namespace ExportIndex

mutual

/-- What is reported of the files in a tree, at whatever depth. -/
def Directory.files : Directory → List FileExports
  | .ofList entries => Directory.filesOf entries

def Directory.filesOf : List (String × DirectoryEntry) → List FileExports
  | [] => []
  | (_, entry) :: rest => entry.files ++ Directory.filesOf rest

def DirectoryEntry.files : DirectoryEntry → List FileExports
  | .file exports => [exports]
  | .directory directory => directory.files

end

/-- The name of the directory that has a key. -/
def Directory.nameOfKey (key : String) : String := String.ofList key.toList.dropLast

mutual

/-- How many directories of a tree lead back to a directory around them, when the tree is at a
path and the directories around it are in some places. -/
def Directory.returns (system : FileSystem) (around : List (List String)) (path : List String) :
    Directory → Nat
  | .ofList entries =>
    match system.canonical? path with
    | none => Directory.returnsOf system around path entries
    | some place =>
      if around.contains place then 1 else Directory.returnsOf system (place :: around) path entries

def Directory.returnsOf (system : FileSystem) (around : List (List String))
    (path : List String) : List (String × DirectoryEntry) → Nat
  | [] => 0
  | (key, entry) :: rest =>
    entry.returns system around (path ++ [Directory.nameOfKey key]) +
      Directory.returnsOf system around path rest

def DirectoryEntry.returns (system : FileSystem) (around : List (List String))
    (path : List String) : DirectoryEntry → Nat
  | .file _ => 0
  | .directory directory => directory.returns system around path

end

namespace Directory

theorem nameOfKey_slash (name : String) : nameOfKey (name ++ "/") = name := by
  have slash : "/".toList = ['/'] := rfl
  rw [nameOfKey, String.toList_append, slash, List.dropLast_concat, String.ofList_toList]

theorem filesOf_append (first second : List (String × DirectoryEntry)) :
    filesOf (first ++ second) = filesOf first ++ filesOf second := by
  induction first with
  | nil => rfl
  | cons entry rest ih =>
    obtain ⟨key, entry⟩ := entry
    rw [List.cons_append, filesOf, filesOf, ih, List.append_assoc]

theorem returnsOf_append (system : FileSystem) (around : List (List String))
    (path : List String) (first second : List (String × DirectoryEntry)) :
    returnsOf system around path (first ++ second) =
      returnsOf system around path first + returnsOf system around path second := by
  induction first with
  | nil => rw [List.nil_append, returnsOf, Nat.zero_add]
  | cons entry rest ih =>
    obtain ⟨key, entry⟩ := entry
    rw [List.cons_append, returnsOf, returnsOf, ih, Nat.add_assoc]

end Directory

namespace Scan

/-- What is counted of a part of a scan. -/
structure Tally where
  seen : Nat
  parsed : Nat
  failed : Nat
  missed : Nat
  scanned : Nat
  skipped : Nat
  unlisted : Nat
  records : Nat

namespace Tally

def zero : Tally := ⟨0, 0, 0, 0, 0, 0, 0, 0⟩

def add (first second : Tally) : Tally where
  seen := first.seen + second.seen
  parsed := first.parsed + second.parsed
  failed := first.failed + second.failed
  missed := first.missed + second.missed
  scanned := first.scanned + second.scanned
  skipped := first.skipped + second.skipped
  unlisted := first.unlisted + second.unlisted
  records := first.records + second.records

/-- The counters after a part of a scan. -/
def onto (tally : Tally) (metrics : ScanMetrics) : ScanMetrics where
  filesSeen := metrics.filesSeen + .ofNat tally.seen
  filesParsed := metrics.filesParsed + .ofNat tally.parsed
  parseFailures := metrics.parseFailures + .ofNat tally.failed
  readFailures := metrics.readFailures + .ofNat tally.missed
  directoriesScanned := metrics.directoriesScanned + .ofNat tally.scanned
  directoriesSkipped := metrics.directoriesSkipped + .ofNat tally.skipped
  directoryFailures := metrics.directoryFailures + .ofNat tally.unlisted
  totalRecords := metrics.totalRecords + .ofNat tally.records
  scanTime := metrics.scanTime

theorem onto_zero (metrics : ScanMetrics) : zero.onto metrics = metrics := by
  simp [onto, zero]

theorem onto_add (first second : Tally) (metrics : ScanMetrics) :
    (first.add second).onto metrics = second.onto (first.onto metrics) := by
  simp [onto, add, UInt64.ofNat_add, UInt64.add_assoc]

/-- A tally accounts for some files and for a number of directories, some of which lead back. -/
structure Accounts (tally : Tally) (files : List FileExports) (directories returns : Nat) :
    Prop where
  seen : tally.seen = files.length
  records : tally.records = (files.map FileExports.count).sum
  scanned : tally.scanned + returns = directories
  read : tally.parsed + tally.missed ≤ tally.seen
  failed : tally.failed ≤ tally.parsed
  unlisted : tally.unlisted ≤ tally.scanned
  reporting :
    (files.filter fun exports => exports.count ≠ 0).length + tally.failed ≤ tally.parsed

theorem accounts_zero : zero.Accounts [] 0 0 := by
  constructor <;> simp [zero]

/-- Tallies of two parts account for both together. -/
theorem Accounts.add {first second : Tally} {files more : List FileExports}
    {directories others returns again : Nat} (here : first.Accounts files directories returns)
    (there : second.Accounts more others again) :
    (first.add second).Accounts (files ++ more) (directories + others) (returns + again) where
  seen := by simp [Tally.add, here.seen, there.seen]
  records := by simp [Tally.add, here.records, there.records]
  scanned := by
    have := here.scanned
    have := there.scanned
    simp only [Tally.add]
    omega
  read := by
    have := here.read
    have := there.read
    simp only [Tally.add]
    omega
  failed := Nat.add_le_add here.failed there.failed
  unlisted := Nat.add_le_add here.unlisted there.unlisted
  reporting := by
    have := here.reporting
    have := there.reporting
    simp only [Tally.add, List.filter_append, List.length_append]
    omega

end Tally

/-- Nothing is reported where nothing is found. -/
theorem count_shape_nil (mode : OutputMode) : (shape mode []).count = 0 := by
  cases mode <;> rfl

/-- What is counted of an entry that is no directory accounts for one file. -/
theorem Scanner.Reading.accounted {scanner : Scanner} {name : String}
    {content : Option FileContent} {exports : FileExports} {count : ScanMetrics → ScanMetrics}
    (reading : scanner.Reading name content exports count) :
    ∃ tally : Tally, (∀ metrics, count metrics = tally.onto metrics) ∧
      tally.Accounts [exports] 0 0 := by
  have silent : scanner.noExports.count = 0 := count_shape_nil _
  cases reading with
  | lost nothing =>
    refine ⟨{ Tally.zero with seen := 1, missed := 1 }, fun metrics => ?_, ?_⟩
    · simp [Tally.onto, Tally.zero, ScanMetrics.seeFile, ScanMetrics.missFile]
    · constructor <;> simp [Tally.zero, silent]
  | refused refused =>
    refine ⟨{ Tally.zero with seen := 1 }, fun metrics => ?_, ?_⟩
    · simp [Tally.onto, Tally.zero, ScanMetrics.seeFile]
    · constructor <;> simp [Tally.zero, silent]
  | unreadable admitted =>
    refine ⟨{ Tally.zero with seen := 1, missed := 1 }, fun metrics => ?_, ?_⟩
    · simp [Tally.onto, Tally.zero, ScanMetrics.seeFile, ScanMetrics.missFile]
    · constructor <;> simp [Tally.zero, silent]
  | @parsed bytes admitted =>
    cases failed : (scanner.extraction name bytes).failed with
    | false =>
      refine ⟨{ Tally.zero with
        seen := 1
        parsed := 1
        records := (shape scanner.settings.mode (scanner.extraction name bytes).records).count },
        fun metrics => ?_, ?_⟩
      · simp [Tally.onto, Tally.zero, ScanMetrics.seeFile, ScanMetrics.parseFile]
      · constructor <;> simp [Tally.zero]
        exact List.length_filter_le _ [_]
    | true =>
      have nothing : (scanner.extraction name bytes).records = [] :=
        Extraction.records_of_failed failed
      rw [nothing]
      refine ⟨{ Tally.zero with seen := 1, parsed := 1, failed := 1 }, fun metrics => ?_, ?_⟩
      · simp [Tally.onto, Tally.zero, ScanMetrics.seeFile, ScanMetrics.parseFile,
          count_shape_nil]
      · constructor <;> simp [Tally.zero, count_shape_nil]

/-- What a tally says of a task that results in a tree. -/
def Task.Accounted (system : FileSystem) (entered : List (List String)) (tree : Directory)
    (tally : Tally) : Task → Prop
  | .directory path =>
    tally.Accounts tree.files (1 + tree.directoryKeys.length) (tree.returns system entered path)
  | .contents path =>
    tally.Accounts tree.files (1 + tree.directoryKeys.length)
      (Directory.returnsOf system entered path tree.toList)
  | .entries path _ found | .entry path found _ =>
    ∃ added, tree.toList = found.toList ++ added ∧
      tally.Accounts (Directory.filesOf added) (Directory.directoryKeysOf added).length
        (Directory.returnsOf system entered path added)

/-- The directory that is scanned counts itself. -/
theorem Tally.Accounts.scanDirectory {tally : Tally} {files : List FileExports}
    {directories returns : Nat} (accounts : tally.Accounts files directories returns) :
    ({ Tally.zero with scanned := 1 }.add tally).Accounts files (1 + directories) returns := by
  have itself : Tally.Accounts { Tally.zero with scanned := 1 } [] 1 0 := by
    constructor <;> simp [Tally.zero]
  simpa using itself.add accounts

theorem Descent.accounted {scanner : Scanner} {entered : List (List String)} {task : Task}
    {metrics counted : ScanMetrics} {tree : Directory}
    (descent : Descent scanner entered task metrics tree counted) :
    ∃ tally : Tally, counted = tally.onto metrics ∧
      task.Accounted scanner.system entered tree tally := by
  induction descent with
  | @nowhere entered path tree metrics counted leads _ ih =>
    obtain ⟨tally, counts, accounts⟩ := ih
    refine ⟨tally, counts, ?_⟩
    cases tree with
    | ofList entries =>
      rw [Task.Accounted, Directory.returns, leads]
      exact accounts
  | @cut entered path place metrics canonical inside =>
    refine ⟨.zero, (Tally.onto_zero metrics).symm, ?_⟩
    rw [Task.Accounted, Directory.empty, Directory.returns, canonical]
    simp only [List.contains_iff_mem.mpr inside, if_true]
    constructor <;> simp [Tally.zero, Directory.files, Directory.filesOf,
      Directory.directoryKeys, Directory.directoryKeysOf]
  | @enter entered path place tree metrics counted canonical outside _ ih =>
    obtain ⟨tally, counts, accounts⟩ := ih
    refine ⟨tally, counts, ?_⟩
    cases tree with
    | ofList entries =>
      rw [Task.Accounted, Directory.returns, canonical]
      simp only [List.contains_iff_mem, if_neg outside]
      exact accounts
  | @listed entered path names tree metrics counted lists _ ih =>
    obtain ⟨tally, counts, added, grown, accounts⟩ := ih
    refine ⟨{ Tally.zero with scanned := 1 }.add tally, ?_, ?_⟩
    · rw [counts, Tally.onto_add]
      simp [Tally.onto, Tally.zero, ScanMetrics.scanDirectory]
    · cases tree with
      | ofList entries =>
        obtain rfl : entries = added := by simpa [Directory.toList, Directory.empty] using grown
        exact accounts.scanDirectory
  | unlisted fails =>
    refine ⟨{ Tally.zero with scanned := 1, unlisted := 1 }, ?_, ?_⟩
    · simp [Tally.onto, Tally.zero, ScanMetrics.scanDirectory, ScanMetrics.failDirectory]
    · rw [Task.Accounted, Directory.toListEmpty, Directory.returnsOf]
      constructor <;> simp [Tally.zero, Directory.empty, Directory.files, Directory.filesOf,
        Directory.directoryKeys, Directory.directoryKeysOf]
  | @done entered path found metrics =>
    refine ⟨.zero, (Tally.onto_zero metrics).symm, [], (List.append_nil _).symm, ?_⟩
    rw [Directory.returnsOf]
    exact Tally.accounts_zero
  | proceed _ _ first rest =>
    obtain ⟨tally, counts, here, grown, accounts⟩ := first
    obtain ⟨other, countsOn, behind, grownOn, accountsOn⟩ := rest
    refine ⟨tally.add other, ?_, here ++ behind, ?_, ?_⟩
    · rw [countsOn, counts, Tally.onto_add]
    · rw [grownOn, grown, List.append_assoc]
    · rw [Directory.filesOf_append, Directory.directoryKeysOf_append, List.length_append,
        Directory.returnsOf_append]
      exact accounts.add accountsOn
  | @skip entered path name listable found metrics leads skips =>
    refine ⟨{ Tally.zero with skipped := 1 }, ?_, [], (List.append_nil _).symm, ?_⟩
    · simp [Tally.onto, Tally.zero, ScanMetrics.skipDirectory]
    · rw [Directory.returnsOf]
      constructor <;> simp [Tally.zero, Directory.filesOf, Directory.directoryKeysOf]
  | @descend entered path name listable found inner metrics counted leads keeps _ ih =>
    obtain ⟨tally, counts, accounts⟩ := ih
    refine ⟨tally, counts, _, Directory.toListAddDirectory _ _ _, ?_⟩
    rw [Task.Accounted] at accounts
    simpa [Directory.filesOf, DirectoryEntry.files, Directory.directoryKeysOf,
      DirectoryEntry.directoryKeysUnder, Directory.returnsOf, DirectoryEntry.returns,
      Directory.nameOfKey_slash, Nat.add_comm] using accounts
  | @read entered path name exports count found metrics leads reading =>
    obtain ⟨tally, counts, accounts⟩ := reading.accounted
    refine ⟨tally, counts metrics, _, Directory.toListAddFile _ _ _, ?_⟩
    simpa [Directory.filesOf, DirectoryEntry.files, Directory.directoryKeysOf,
      DirectoryEntry.directoryKeysUnder, Directory.returnsOf, DirectoryEntry.returns] using accounts

/-- The counters of a finished scan agree with its tree, whose root is at a path. -/
structure Agreement (system : FileSystem) (path : List String) (tree : Directory)
    (metrics : ScanMetrics) : Prop where
  filesSeen : metrics.filesSeen.toNat = tree.files.length
  totalRecords : metrics.totalRecords.toNat = (tree.files.map FileExports.count).sum
  directoriesScanned :
    metrics.directoriesScanned.toNat + tree.returns system [] path =
      1 + tree.directoryKeys.length
  readFailures : metrics.filesParsed.toNat + metrics.readFailures.toNat ≤ metrics.filesSeen.toNat
  parseFailures : metrics.parseFailures.toNat ≤ metrics.filesParsed.toNat
  directoryFailures : metrics.directoryFailures.toNat ≤ metrics.directoriesScanned.toNat
  reporting :
    (tree.files.filter fun exports => exports.count ≠ 0).length ≤
      metrics.filesParsed.toNat - metrics.parseFailures.toNat

/-- Counters can hold what there is to count in a tree. Any tree that a memory holds is so. -/
structure Countable (tree : Directory) : Prop where
  files : tree.files.length < UInt64.size
  directories : 1 + tree.directoryKeys.length < UInt64.size
  records : (tree.files.map FileExports.count).sum < UInt64.size

/-- A tally that accounts for a tree whose counts fit is what the counters hold. -/
theorem Tally.Accounts.agreement {tally : Tally} {system : FileSystem} {path : List String}
    {tree : Directory} (countable : Countable tree)
    (accounts : tally.Accounts tree.files (1 + tree.directoryKeys.length)
      (tree.returns system [] path)) :
    Agreement system path tree (tally.onto .zero) := by
  obtain ⟨seen, records, scanned, read, failed, unlisted, reporting⟩ := accounts
  obtain ⟨filesFit, directoriesFit, recordsFit⟩ := countable
  have exact {count : Nat} (fits : count < UInt64.size) :
      ((0 : UInt64) + .ofNat count).toNat = count := by
    rw [UInt64.zero_add, UInt64.toNat_ofNat_of_lt' fits]
  simp only [Tally.onto, ScanMetrics.zero]
  constructor <;> simp only
  · rw [exact (by omega), seen]
  · rw [exact (by omega), records]
  · rw [exact (by omega), scanned]
  · rw [exact (by omega), exact (by omega), exact (by omega)]
    exact read
  · rw [exact (by omega), exact (by omega)]
    exact failed
  · rw [exact (by omega), exact (by omega)]
    exact unlisted
  · rw [exact (by omega), exact (by omega)]
    omega

/-- The tree and the counters of a scan are those that its walk comes to. -/
theorem Scanner.scan_descent {scanner : Scanner} {root : String} {path : List String}
    {tree : Directory} {metrics : ScanMetrics}
    (completes : scanner.scan root path = .ok (tree, metrics)) :
    Descent scanner [] (.directory path) .zero tree metrics := by
  rw [scan] at completes
  split at completes
  · cases completes
  · cases completes
    exact (Task.directory path).descends scanner .start

/-- Every scan that completes has counted, in words of 64 bits, what there is in its tree, in
either mode and whatever could not be read. Where the tree is countable, its counters agree with
it as they are. -/
theorem scan_counts_tree {scanner : Scanner} {root : String} {path : List String}
    {tree : Directory} {metrics : ScanMetrics}
    (completes : scanner.scan root path = .ok (tree, metrics)) :
    (∃ tally : Tally, metrics = tally.onto .zero ∧
      tally.Accounts tree.files (1 + tree.directoryKeys.length)
        (tree.returns scanner.system [] path)) ∧
    (Countable tree → Agreement scanner.system path tree metrics) := by
  obtain ⟨tally, counts, accounts⟩ := (Scanner.scan_descent completes).accounted
  refine ⟨⟨tally, counts, accounts⟩, fun countable => ?_⟩
  rw [counts]
  exact accounts.agreement countable

/-- The tree of an assignment to the variable at the start of a text. -/
def assigning : Grammar := fun _ =>
  let node (kind : String) := ParseTree.node ⟨kind, true, 0, 1, 0, 0, false, false⟩
  node "module"
    [(none, node "expression_statement"
      [(none, node "assignment" [(some "left", node "identifier" [])])])]

/-- A directory with a link back to the root, a file with a name and a file that cannot be read. -/
def counted : Scanner where
  system := ⟨[(["lib"], .directory true), (["lib", "up"], .link ".."),
    (["a.py"], .file [97] true), (["b.py"], .file [] false)]⟩
  programs := fun _ => none
  settings := .standard
  grammars := ⟨assigning, assigning, assigning, assigning⟩

theorem extraction_counted :
    counted.extraction "a.py" [97] = ⟨[.named "a" .unknown], false⟩ := by
  cbv

/-- The course of the scan: the link back is cut, and one file is counted of each kind. -/
theorem descent_counted : Descent counted [] (.directory []) .zero
    (.ofList [("lib/", .directory (.ofList [("up/", .directory .empty)])),
      ("a.py", .file (.names ["a"])), ("b.py", .file (.names []))])
    ⟨2, 1, 0, 1, 2, 0, 0, 1, 0⟩ := by
  have back (metrics : ScanMetrics) : Descent counted [["lib"], []] (.entry ["lib"] .empty "up")
      metrics (Directory.empty.addDirectory "up" .empty) metrics :=
    @Descent.descend _ _ _ _ true _ _ _ _ (by cbv) (by decide)
      (@Descent.cut _ _ _ [] _ (by cbv) (by decide))
  have lib (metrics : ScanMetrics) : Descent counted [[]] (.entry [] .empty "lib") metrics
      (Directory.empty.addDirectory "lib" (Directory.empty.addDirectory "up" .empty))
      metrics.scanDirectory :=
    @Descent.descend _ _ _ _ true _ _ _ _ (by cbv) (by decide)
      (@Descent.enter _ _ _ ["lib"] _ _ _ (by cbv) (by decide)
        (@Descent.listed _ _ _ ["up"] _ _ _ (by cbv) (.proceed (back _) .done)))
  have named : counted.system.target? ["a.py"] = some (.file [97] true) := by cbv
  have first (found : Directory) (metrics : ScanMetrics) :
      Descent counted [[]] (.entry [] found "a.py") metrics (found.addFile "a.py" (.names ["a"]))
        (metrics.seeFile.parseFile false 1) := by
    have parsed := @Scanner.Reading.parsed counted "a.py" [97] (by cbv)
    rw [extraction_counted] at parsed
    exact @Descent.read _ _ [] _ _ _ _ _ (by simp [named]) (named ▸ parsed)
  have shut : counted.system.target? ["b.py"] = some (.file [] false) := by cbv
  have second (found : Directory) (metrics : ScanMetrics) :
      Descent counted [[]] (.entry [] found "b.py") metrics (found.addFile "b.py" (.names []))
        metrics.seeFile.missFile := by
    have missed := @Scanner.Reading.unreadable counted "b.py" [] (by cbv)
    exact @Descent.read _ _ [] _ _ _ _ _ (by simp [shut]) (shut ▸ missed)
  exact @Descent.enter _ _ _ [] _ _ _ (by cbv) (by decide)
    (@Descent.listed _ _ _ ["lib", "a.py", "b.py"] _ _ _ (by cbv)
      (.proceed (lib _) (.proceed (first _ _) (.proceed (second _ _) .done))))

/-- Of two files one has a name and one cannot be read, and of three directories two are scanned. -/
theorem scan_counts_tree_of_counted : ∃ tree metrics,
    counted.scan "." [] = .ok (tree, metrics) ∧ metrics = ⟨2, 1, 0, 1, 2, 0, 0, 1, 0⟩ ∧
      tree.returns counted.system [] [] = 1 ∧ Agreement counted.system [] tree metrics := by
  obtain ⟨tree, metrics, completes, descent⟩ := @Scanner.scan_starts counted "." []
    (by decide) (by cbv)
  cases descent.runs.symm.trans descent_counted.runs
  refine ⟨_, _, completes, rfl, by cbv, (scan_counts_tree completes).2 ⟨?_, ?_, ?_⟩⟩
  all_goals decide

end Scan

end ExportIndex
