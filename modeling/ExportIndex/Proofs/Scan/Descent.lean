import ExportIndex.Scan.Walk

/-
This file describes the course of a walk as a derivation. Every walk takes one course, which
says what it finds and what it counts.
-/

namespace ExportIndex.Scan

/-- What a walk can be about to do. -/
inductive Task where
  | directory (path : List String)
  | contents (path : List String)
  | entries (path names : List String) (found : Directory)
  | entry (path : List String) (found : Directory) (name : String)

def Task.run (scanner : Scanner) (walk : Walk) : Task → Visit walk
  | directory path => scanner.directory path walk
  | contents path => scanner.contents path walk
  | entries path names found => scanner.entries path names found walk
  | entry path found name => scanner.entry path found name walk

/-- The course that a task takes when some places are entered, from the counters before it to
its result and the counters after it. -/
inductive Descent (scanner : Scanner) :
    List (List String) → Task → ScanMetrics → Directory → ScanMetrics → Prop where
  | nowhere {entered : List (List String)} {path : List String} {tree : Directory}
      {metrics counted : ScanMetrics} (leads : scanner.system.canonical? path = none)
      (inner : Descent scanner entered (.contents path) metrics tree counted) :
      Descent scanner entered (.directory path) metrics tree counted
  | cut {entered : List (List String)} {path place : List String} {metrics : ScanMetrics}
      (canonical : scanner.system.canonical? path = some place) (inside : place ∈ entered) :
      Descent scanner entered (.directory path) metrics .empty metrics
  | enter {entered : List (List String)} {path place : List String} {tree : Directory}
      {metrics counted : ScanMetrics}
      (canonical : scanner.system.canonical? path = some place) (outside : place ∉ entered)
      (inner : Descent scanner (place :: entered) (.contents path) metrics tree counted) :
      Descent scanner entered (.directory path) metrics tree counted
  | listed {entered : List (List String)} {path names : List String} {tree : Directory}
      {metrics counted : ScanMetrics} (lists : scanner.system.listing? path = some names)
      (inner : Descent scanner entered (.entries path names .empty) metrics.scanDirectory
        tree counted) :
      Descent scanner entered (.contents path) metrics tree counted
  | unlisted {entered : List (List String)} {path : List String} {metrics : ScanMetrics}
      (fails : scanner.system.listing? path = none) :
      Descent scanner entered (.contents path) metrics .empty
        metrics.scanDirectory.failDirectory
  | done {entered : List (List String)} {path : List String} {found : Directory}
      {metrics : ScanMetrics} :
      Descent scanner entered (.entries path [] found) metrics found metrics
  | proceed {entered : List (List String)} {path names : List String} {name : String}
      {found grown tree : Directory} {metrics between counted : ScanMetrics}
      (first : Descent scanner entered (.entry path found name) metrics grown between)
      (rest : Descent scanner entered (.entries path names grown) between tree counted) :
      Descent scanner entered (.entries path (name :: names) found) metrics tree counted
  | skip {entered : List (List String)} {path : List String} {name : String} {listable : Bool}
      {found : Directory} {metrics : ScanMetrics}
      (leads : scanner.system.target? (path ++ [name]) = some (.directory listable))
      (skips : scanner.settings.skips name = true) :
      Descent scanner entered (.entry path found name) metrics found metrics.skipDirectory
  | descend {entered : List (List String)} {path : List String} {name : String}
      {listable : Bool} {found inner : Directory} {metrics counted : ScanMetrics}
      (leads : scanner.system.target? (path ++ [name]) = some (.directory listable))
      (keeps : scanner.settings.skips name = false)
      (below : Descent scanner entered (.directory (path ++ [name])) metrics inner counted) :
      Descent scanner entered (.entry path found name) metrics (found.addDirectory name inner)
        counted
  | read {entered : List (List String)} {path : List String} {name : String}
      {exports : FileExports} {count : ScanMetrics → ScanMetrics} {found : Directory}
      {metrics : ScanMetrics}
      (leads : ∀ listable,
        scanner.system.target? (path ++ [name]) ≠ some (.directory listable))
      (reading : scanner.Reading name (scanner.system.target? (path ++ [name])) exports count) :
      Descent scanner entered (.entry path found name) metrics (found.addFile name exports)
        (count metrics)

/-- A task takes a course to what it finds. -/
def Task.Descends (scanner : Scanner) (task : Task) (walk : Walk) : Prop :=
  Descent scanner walk.entered task walk.metrics (task.run scanner walk).result.1
    (task.run scanner walk).result.2.metrics

/-- Every task takes a course. -/
theorem Task.descends (scanner : Scanner) (task : Task) (walk : Walk) :
    task.Descends scanner walk := by
  have courses := Scanner.directory.mutual_induct scanner
    (fun path walk => (Task.directory path).Descends scanner walk)
    (fun path walk => (Task.contents path).Descends scanner walk)
    (fun path names found walk => (Task.entries path names found).Descends scanner walk)
    (fun path found name walk => (Task.entry path found name).Descends scanner walk)
    ?nowhere ?cut ?enter ?listed ?unlisted ?done ?proceed ?skip ?descend ?read
  · cases task with
    | directory path => exact courses.1 path walk
    | contents path => exact courses.2.1 path walk
    | entries path names found => exact courses.2.2.1 path names found walk
    | entry path found name => exact courses.2.2.2 path found name walk
  case nowhere =>
    intro path walk leads inner
    rw [Descends, run, Scanner.directory_nowhere leads]
    exact .nowhere leads inner
  case cut =>
    intro path walk place canonical inside
    rw [Descends, run, Scanner.directory_cut canonical inside]
    exact .cut canonical inside
  case enter =>
    intro path walk place canonical outside inner
    rw [Descends, run, Scanner.directory_enter canonical outside]
    exact .enter canonical outside inner
  case listed =>
    intro path walk names lists inner
    rw [Descends, run, Scanner.contents_listed lists]
    exact .listed lists inner
  case unlisted =>
    intro path walk fails
    rw [Descends, run, Scanner.contents_unlisted fails]
    exact .unlisted fails
  case done =>
    intro path found walk
    rw [Descends, run, Scanner.entries_nil]
    exact .done
  case proceed =>
    intro path found walk name names visit first rest
    rw [Descends, visit.restored] at rest
    rw [Descends, run, Scanner.entries_cons]
    exact .proceed first rest
  case skip =>
    intro path found name walk listable leads skips
    rw [Descends, run, Scanner.entry_skip leads skips]
    exact .skip leads skips
  case descend =>
    intro path found name walk listable leads keeps below
    have keeps := Bool.eq_false_iff.mpr keeps
    rw [Descends, run, Scanner.entry_descend leads keeps]
    exact .descend leads keeps below
  case read =>
    intro path found name walk _ _ leads _
    obtain ⟨exports, count, reading⟩ := scanner.plain_reading name _
    rw [Descends, run, Scanner.entry_read leads reading]
    exact .read leads reading

namespace Descent

variable {scanner : Scanner} {entered : List (List String)} {task : Task}
  {metrics counted : ScanMetrics} {tree : Directory}

/-- A task finds what its course says, and leaves the entered places as they were. -/
theorem runs (descent : Descent scanner entered task metrics tree counted) :
    (task.run scanner ⟨metrics, entered⟩).result = (tree, ⟨counted, entered⟩) := by
  induction descent with
  | nowhere leads _ ih =>
    rw [Task.run, Scanner.directory_nowhere leads]
    exact ih
  | cut canonical inside =>
    rw [Task.run, Scanner.directory_cut canonical inside]
    rfl
  | enter canonical outside _ ih =>
    obtain ⟨finds, leaves⟩ := Prod.mk.inj ih
    rw [Task.run] at finds leaves
    rw [Task.run, Scanner.directory_enter canonical outside]
    refine Prod.ext finds ((congrArg (Walk.leave · _) leaves).trans ?_)
    simp [Walk.leave]
  | listed lists _ ih => exact (Scanner.contents_listed lists).trans ih
  | unlisted fails =>
    rw [Task.run, Scanner.contents_unlisted fails]
    rfl
  | done =>
    rw [Task.run, Scanner.entries_nil]
    rfl
  | proceed _ _ first rest =>
    obtain ⟨finds, leaves⟩ := Prod.mk.inj first
    rw [Task.run] at finds leaves
    rw [Task.run, Scanner.entries_cons, finds, leaves]
    exact rest
  | skip leads skips =>
    rw [Task.run, Scanner.entry_skip leads skips]
    rfl
  | descend leads keeps _ below =>
    obtain ⟨finds, leaves⟩ := Prod.mk.inj below
    rw [Task.run] at finds leaves
    rw [Task.run, Scanner.entry_descend leads keeps]
    exact Prod.ext (congrArg (Directory.addDirectory _ _) finds) leaves
  | read leads reading =>
    rw [Task.run, Scanner.entry_read leads reading]
    rfl

end Descent

end ExportIndex.Scan
