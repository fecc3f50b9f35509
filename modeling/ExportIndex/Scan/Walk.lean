import ExportIndex.Scan.Counting

/-
This file walks through directories. Links are followed, and a directory that is being
read already is not entered again.
-/

namespace ExportIndex.Scan

/-- What has been counted, and the places of the directories that are being read. -/
structure Walk where
  metrics : ScanMetrics
  entered : List (List String)

namespace Walk

def start : Walk := ⟨.zero, []⟩

def count (walk : Walk) (change : ScanMetrics → ScanMetrics) : Walk :=
  { walk with metrics := change walk.metrics }

def enter (walk : Walk) (place : List String) : Walk :=
  { walk with entered := place :: walk.entered }

def leave (walk : Walk) (place : List String) : Walk :=
  { walk with entered := walk.entered.erase place }

end Walk

/-- What a part of a walk finds, and the walk behind it. It leaves what it enters. -/
structure Visit (before : Walk) where
  found : Directory
  after : Walk
  restored : after.entered = before.entered

namespace Visit

def result {walk : Walk} (visit : Visit walk) : Directory × Walk := (visit.found, visit.after)

def leave {walk : Walk} {place : List String} (visit : Visit (walk.enter place)) : Visit walk where
  found := visit.found
  after := visit.after.leave place
  restored := by simp [Walk.leave, visit.restored, Walk.enter]

def followedBy {walk : Walk} (first : Visit walk) (second : Visit first.after) : Visit walk where
  found := second.found
  after := second.after
  restored := second.restored.trans first.restored

def hold {walk : Walk} (visit : Visit walk) (found : Directory) (name : String) : Visit walk :=
  { visit with found := found.addDirectory name visit.found }

end Visit

namespace Scanner

mutual

-- Paths grow without bound over links. What gets less on the way down is the number of places
-- that are left to enter, and a directory that cannot be listed leads nowhere further.
/-- Reads the directory at a path, unless its place is entered. -/
def directory (scanner : Scanner) (path : List String) (walk : Walk) : Visit walk :=
  match _canonical : scanner.system.canonical? path with
  | none => contents scanner path walk
  | some place =>
    if _inside : place ∈ walk.entered then ⟨.empty, walk, rfl⟩
    else (contents scanner path (walk.enter place)).leave
termination_by (scanner.system.depthBelow walk.entered + 1, 0, 0)
decreasing_by
  · exact .left _ _ (FileSystem.depthFrom_nowhere _canonical _)
  · exact .left _ _ (FileSystem.depthFrom_enter _canonical _inside)

/-- Lists the directory at a path and reads its entries. -/
def contents (scanner : Scanner) (path : List String) (walk : Walk) : Visit walk :=
  match _lists : scanner.system.listing? path with
  | some names =>
    let visit := entries scanner path names .empty (walk.count .scanDirectory)
    ⟨visit.found, visit.after, visit.restored⟩
  | none => ⟨.empty, walk.count fun metrics => metrics.scanDirectory.failDirectory, rfl⟩
termination_by (scanner.system.depthFrom path walk.entered, 3, 0)
decreasing_by
  rw [FileSystem.depthFrom_listed _lists]
  exact .right _ (.left _ _ (by decide))

/-- Adds the entries under some names to what has been found in a directory. -/
def entries (scanner : Scanner) (path names : List String) (found : Directory) (walk : Walk) :
    Visit walk :=
  match names with
  | [] => ⟨found, walk, rfl⟩
  | name :: names =>
    let visit := entry scanner path found name walk
    visit.followedBy (entries scanner path names visit.found visit.after)
termination_by (scanner.system.depthBelow walk.entered + 1, 2, names.length)
decreasing_by
  · exact .right _ (.left _ _ (by decide))
  · rw [Visit.restored]
    exact .right _ (.right _ (Nat.lt_succ_self _))

def entry (scanner : Scanner) (path : List String) (found : Directory) (name : String)
    (walk : Walk) : Visit walk :=
  match scanner.system.target? (path ++ [name]) with
  | some (.directory _) =>
    if scanner.settings.skips name then ⟨found, walk.count .skipDirectory, rfl⟩
    else (directory scanner (path ++ [name]) walk).hold found name
  | content =>
    let (exports, metrics) := (scanner.plain name content).run walk.metrics
    ⟨found.addFile name exports, { walk with metrics }, rfl⟩
termination_by (scanner.system.depthBelow walk.entered + 1, 1, 0)
decreasing_by exact .right _ (.left _ _ (by decide))

end

variable {scanner : Scanner} {path : List String} {walk : Walk}

theorem directory_cut {place : List String}
    (canonical : scanner.system.canonical? path = some place) (inside : place ∈ walk.entered) :
    scanner.directory path walk = ⟨.empty, walk, rfl⟩ := by
  rw [directory]
  split
  · next nowhere => cases nowhere.symm.trans canonical
  · next other leads =>
    obtain rfl := Option.some.inj (leads.symm.trans canonical)
    rw [dif_pos inside]

theorem directory_enter {place : List String}
    (canonical : scanner.system.canonical? path = some place) (outside : place ∉ walk.entered) :
    scanner.directory path walk = (scanner.contents path (walk.enter place)).leave := by
  rw [directory]
  split
  · next nowhere => cases nowhere.symm.trans canonical
  · next other leads =>
    obtain rfl := Option.some.inj (leads.symm.trans canonical)
    rw [dif_neg outside]

theorem directory_nowhere (leads : scanner.system.canonical? path = none) :
    scanner.directory path walk = scanner.contents path walk := by
  rw [directory]
  split
  · rfl
  · next other canonical => cases canonical.symm.trans leads

theorem contents_listed {names : List String}
    (lists : scanner.system.listing? path = some names) :
    (scanner.contents path walk).result =
      (scanner.entries path names .empty (walk.count .scanDirectory)).result := by
  rw [contents]
  split
  · next other leads =>
    obtain rfl := Option.some.inj (leads.symm.trans lists)
    rfl
  · next fails => cases fails.symm.trans lists

theorem contents_unlisted (fails : scanner.system.listing? path = none) :
    scanner.contents path walk =
      ⟨.empty, walk.count fun metrics => metrics.scanDirectory.failDirectory, rfl⟩ := by
  rw [contents]
  split
  · next names lists => cases lists.symm.trans fails
  · rfl

theorem entries_nil {found : Directory} :
    scanner.entries path [] found walk = ⟨found, walk, rfl⟩ := by
  rw [entries]

theorem entries_cons {name : String} {names : List String} {found : Directory} :
    (scanner.entries path (name :: names) found walk).result =
      (scanner.entries path names (scanner.entry path found name walk).found
        (scanner.entry path found name walk).after).result := by
  rw [entries]
  rfl

theorem entry_skip {name : String} {found : Directory} {listable : Bool}
    (leads : scanner.system.target? (path ++ [name]) = some (.directory listable))
    (skips : scanner.settings.skips name = true) :
    scanner.entry path found name walk = ⟨found, walk.count .skipDirectory, rfl⟩ := by
  rw [entry, leads]
  exact if_pos skips

theorem entry_descend {name : String} {found : Directory} {listable : Bool}
    (leads : scanner.system.target? (path ++ [name]) = some (.directory listable))
    (keeps : scanner.settings.skips name = false) :
    scanner.entry path found name walk =
      (scanner.directory (path ++ [name]) walk).hold found name := by
  rw [entry, leads]
  exact if_neg (Bool.eq_false_iff.mp keeps)

theorem entry_read {name : String} {found : Directory} {exports : FileExports}
    {count : ScanMetrics → ScanMetrics}
    (leads : ∀ listable, scanner.system.target? (path ++ [name]) ≠ some (.directory listable))
    (reading : scanner.Reading name (scanner.system.target? (path ++ [name])) exports count) :
    scanner.entry path found name walk = ⟨found.addFile name exports, walk.count count, rfl⟩ := by
  have runs := reading.runs walk.metrics
  rw [entry]
  cases target : scanner.system.target? (path ++ [name]) with
  | none =>
    rw [target] at runs
    simp only [runs, Walk.count]
  | some content =>
    rw [target] at runs
    cases content with
    | directory listable => exact absurd target (leads listable)
    | file bytes readable => simp only [runs, Walk.count]
    | link target => simp only [runs, Walk.count]

end Scanner

end ExportIndex.Scan
