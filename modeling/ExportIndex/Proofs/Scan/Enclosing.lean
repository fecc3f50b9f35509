import ExportIndex.Proofs.Scan.Descent
import ExportIndex.Scan
import Mathlib

/-
This file follows the calls that a walk makes. What is entered during a call are the places
of the directories that the calls around it are reading, and nothing else is remembered.
-/

namespace ExportIndex.Scan

variable {scanner : Scanner} {entered : List (List String)} {task : Task}
  {metrics counted : ScanMetrics} {tree : Directory}

/-- The counters take no part in what a task results in. -/
theorem Descent.recount (descent : Descent scanner entered task metrics tree counted)
    (other : ScanMetrics) : ∃ recounted, Descent scanner entered task other tree recounted := by
  induction descent generalizing other with
  | nowhere leads _ ih =>
    obtain ⟨recounted, inner⟩ := ih other
    exact ⟨recounted, .nowhere leads inner⟩
  | cut canonical inside => exact ⟨other, .cut canonical inside⟩
  | enter canonical outside _ ih =>
    obtain ⟨recounted, inner⟩ := ih other
    exact ⟨recounted, .enter canonical outside inner⟩
  | listed lists _ ih =>
    obtain ⟨recounted, inner⟩ := ih other.scanDirectory
    exact ⟨recounted, .listed lists inner⟩
  | unlisted fails => exact ⟨_, .unlisted fails⟩
  | done => exact ⟨other, .done⟩
  | proceed _ _ first rest =>
    obtain ⟨between, first⟩ := first other
    obtain ⟨recounted, rest⟩ := rest between
    exact ⟨recounted, .proceed first rest⟩
  | skip leads skips => exact ⟨_, .skip leads skips⟩
  | descend leads keeps _ ih =>
    obtain ⟨recounted, below⟩ := ih other
    exact ⟨recounted, .descend leads keeps below⟩
  | read leads reading => exact ⟨_, .read leads reading⟩

/-- A directory holds the same for every walk that has entered the same places. -/
theorem directory_found_congr (path : List String) {first second : Walk}
    (same : first.entered = second.entered) :
    (scanner.directory path first).found = (scanner.directory path second).found := by
  have course : Descent scanner second.entered (.directory path) first.metrics
      (scanner.directory path first).found (scanner.directory path first).after.metrics :=
    same ▸ (Task.directory path).descends scanner first
  obtain ⟨recounted, again⟩ := course.recount second.metrics
  exact (congrArg Prod.fst again.runs).symm

/-- A call that a walk makes on the directory at a path, with the places of the directories
that the calls around it are reading, the innermost first. A call is made for each entry that
leads to a directory to keep, when the entries before it have been read. -/
inductive Call (scanner : Scanner) (start : List String) :
    List (List String) → List String → Walk → Prop where
  | outermost : Call scanner start [] start .start
  | nested {enclosing : List (List String)} {path place before after : List String}
      {name : String} {listable : Bool} {walk : Walk}
      (outer : Call scanner start enclosing path walk)
      (canonical : scanner.system.canonical? path = some place)
      (outside : place ∉ walk.entered)
      (lists : scanner.system.listing? path = some (before ++ name :: after))
      (leads : scanner.system.target? (path ++ [name]) = some (.directory listable))
      (keeps : scanner.settings.skips name = false) :
      Call scanner start (place :: enclosing) (path ++ [name])
        (scanner.entries path before .empty ((walk.enter place).count .scanDirectory)).after

theorem Call.entered_enclosing {start path : List String} {enclosing : List (List String)}
    {walk : Walk} (call : Call scanner start enclosing path walk) : walk.entered = enclosing := by
  induction call with
  | outermost => rfl
  | @nested _ _ place _ _ _ _ _ _ _ _ _ _ _ ih =>
    exact (Visit.restored _).trans (congrArg (place :: ·) ih)

/-- What a call within some calls does. -/
structure Call.Outcome (scanner : Scanner) (enclosing : List (List String)) (path : List String)
    (walk : Walk) : Prop where
  /-- It comes to an end. -/
  course : Descent scanner enclosing (.directory path) walk.metrics
    (scanner.directory path walk).found (scanner.directory path walk).after.metrics
  /-- The entered places are those of the directories that are being read. -/
  entered : walk.entered = enclosing
  /-- It leaves the entered places as they were. -/
  restored : (scanner.directory path walk).after.entered = walk.entered
  /-- On one of the directories that are being read it finds and counts nothing. -/
  cut : ∀ place ∈ enclosing, scanner.system.canonical? path = some place →
    (scanner.directory path walk).result = (.empty, walk)
  /-- It enters any other directory, lists it and reads its entries. -/
  listed : ∀ place ∉ enclosing, scanner.system.canonical? path = some place →
    scanner.directory path walk = (scanner.contents path (walk.enter place)).leave
  /-- What it finds is what any call finds within the same calls, whatever else is scanned. -/
  again : ∀ other : Walk, other.entered = enclosing →
    (scanner.directory path other).found = (scanner.directory path walk).found
  /-- What it finds is what an entry holds that leads to the directory. -/
  held : ∀ parent name found listable, path = parent ++ [name] →
    scanner.system.target? path = some (.directory listable) →
    scanner.settings.skips name = false →
    scanner.entry parent found name walk = (scanner.directory path walk).hold found name

/-- Every call ends, whatever links there are. It reads its directory unless a call around it
is reading the same directory. -/
theorem call_reads_unless_enclosed {start path : List String} {enclosing : List (List String)}
    {walk : Walk} (call : Call scanner start enclosing path walk) :
    Call.Outcome scanner enclosing path walk := by
  have same := call.entered_enclosing
  refine ⟨?_, same, Visit.restored _, ?_, ?_, ?_, ?_⟩
  · exact same ▸ (Task.directory path).descends scanner walk
  · intro place inside canonical
    rw [Scanner.directory_cut canonical (same ▸ inside)]
    rfl
  · intro place outside canonical
    exact Scanner.directory_enter canonical (same ▸ outside)
  · intro other within
    exact directory_found_congr path (within.trans same.symm)
  · rintro parent name found listable rfl leads keeps
    exact Scanner.entry_descend leads keeps

/-- A directory `project` with a directory `pkg`, in which a link leads back by the way from the
root. -/
def looping : Scanner := Project.scanner
  ⟨⟨[(["project"], .directory true), (["project", "pkg"], .directory true),
    (["project", "pkg", "loop"], .link "/project")]⟩, fun _ => none, .standard⟩

/-- The link back leads to an empty directory that is not counted. -/
theorem call_reads_unless_enclosed_loop :
    ∃ walk, Call looping ["project"] [["project", "pkg"], ["project"]]
        ["project", "pkg", "loop"] walk ∧
      walk.metrics = ScanMetrics.zero.scanDirectory.scanDirectory ∧
      (looping.directory ["project", "pkg", "loop"] walk).result = (.empty, walk) := by
  have project : Call looping ["project"] [] ["project"] .start := .outermost
  have pkg := @Call.nested looping _ _ ["project"] ["project"] [] [] "pkg" true _ project
    (by cbv) (by decide) (by cbv) (by cbv) (by decide)
  rw [Scanner.entries_nil] at pkg
  have loop := @Call.nested looping _ _ ["project", "pkg"] ["project", "pkg"] [] [] "loop" true _
    pkg (by cbv) (by decide) (by cbv) (by cbv) (by decide)
  rw [Scanner.entries_nil] at loop
  have leads : looping.system.canonical? ["project", "pkg", "loop"] = some ["project"] := by cbv
  exact ⟨_, loop, rfl, (call_reads_unless_enclosed loop).cut ["project"] (by simp) leads⟩

end ExportIndex.Scan
