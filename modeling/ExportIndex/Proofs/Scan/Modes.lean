import ExportIndex.Proofs.Extraction.Reported
import ExportIndex.Proofs.Scan.Account
import Mathlib

/-
This file compares two scans of one project in the two modes. The walk of one takes the course of
the other; only what is held of a file differs, where names stand for their records.
-/

namespace ExportIndex

mutual

/-- A tree has the keys of another in their order and holds, where the other one has the records
of a file, their names. -/
inductive Directory.NamesOf : Directory → Directory → Prop where
  | ofList {entries others : List (String × DirectoryEntry)}
      (names : EntriesNameOf entries others) : Directory.NamesOf (.ofList entries) (.ofList others)

inductive EntriesNameOf :
    List (String × DirectoryEntry) → List (String × DirectoryEntry) → Prop where
  | nil : EntriesNameOf [] []
  | file {key : String} {records : List ExportRecord}
      {entries others : List (String × DirectoryEntry)} (rest : EntriesNameOf entries others) :
      EntriesNameOf ((key, .file (.names (records.map ExportRecord.name))) :: entries)
        ((key, .file (.records records)) :: others)
  | directory {key : String} {inner other : Directory}
      {entries others : List (String × DirectoryEntry)} (below : Directory.NamesOf inner other)
      (rest : EntriesNameOf entries others) :
      EntriesNameOf ((key, .directory inner) :: entries) ((key, .directory other) :: others)

end

theorem EntriesNameOf.append {entries others : List (String × DirectoryEntry)} :
    ∀ {behind beyond}, EntriesNameOf behind beyond → EntriesNameOf entries others →
      EntriesNameOf (behind ++ entries) (beyond ++ others)
  | _, _, .nil, last => last
  | _, _, .file rest, last => .file (rest.append last)
  | _, _, .directory below rest, last => .directory below (rest.append last)

namespace Directory.NamesOf

variable {legacy enhanced : Directory}

theorem empty : Directory.NamesOf .empty .empty := .ofList .nil

theorem addFile (names : legacy.NamesOf enhanced) (name : String) (records : List ExportRecord) :
    (legacy.addFile name (.names (records.map ExportRecord.name))).NamesOf
      (enhanced.addFile name (.records records)) := by
  cases names with
  | ofList names => exact .ofList (names.append (.file .nil))

theorem addDirectory {inner other : Directory} (names : legacy.NamesOf enhanced) (name : String)
    (below : inner.NamesOf other) :
    (legacy.addDirectory name inner).NamesOf (enhanced.addDirectory name other) := by
  cases names with
  | ofList names => exact .ofList (names.append (.directory below .nil))

end Directory.NamesOf

namespace Scan

/-- The same project and grammars in a mode. -/
def Scanner.inMode (scanner : Scanner) (mode : OutputMode) : Scanner :=
  { scanner with settings := { scanner.settings with mode } }

@[simp] theorem Scanner.inMode_mode (scanner : Scanner) (mode : OutputMode) :
    (scanner.inMode mode).settings.mode = mode := rfl

@[simp] theorem Scanner.inMode_extraction (scanner : Scanner) (mode : OutputMode) :
    (scanner.inMode mode).extraction = scanner.extraction := rfl

@[simp] theorem Scanner.inMode_refusal? (scanner : Scanner) (mode : OutputMode) :
    (scanner.inMode mode).refusal? = scanner.refusal? := rfl

variable {scanner : Scanner}

/-- What is read of an entry in one mode is read in the other, and counted in the same way. A file
has as many names as records since no two of its records share a name. -/
theorem Scanner.Reading.names {name : String} {content : Option FileContent}
    {exports : FileExports} {count : ScanMetrics → ScanMetrics}
    (reading : (scanner.inMode .records).Reading name content exports count) :
    ∃ records, exports = .records records ∧
      (scanner.inMode .names).Reading name content (.names (records.map ExportRecord.name))
        count := by
  cases reading with
  | lost nothing => exact ⟨[], rfl, .lost nothing⟩
  | refused refused => exact ⟨[], rfl, .refused refused⟩
  | unreadable admitted => exact ⟨[], rfl, .unreadable admitted⟩
  | @parsed bytes admitted =>
    refine ⟨(scanner.extraction name bytes).records, rfl, ?_⟩
    have reported : ExportRecord.Reported (scanner.extraction name bytes).records :=
      extractUnder_reported _ _ _ _ _ _
    have named : shape .names (scanner.extraction name bytes).records =
        .names ((scanner.extraction name bytes).records.map ExportRecord.name) :=
      congrArg _ reported.names_eq
    have counts : (shape .names (scanner.extraction name bytes).records).count =
        (shape .records (scanner.extraction name bytes).records).count := by
      rw [named]
      exact List.length_map _
    have parsed := @Scanner.Reading.parsed (scanner.inMode .names) name bytes admitted
    simp only [Scanner.inMode_extraction, Scanner.inMode_mode, counts] at parsed
    rw [named] at parsed
    exact parsed

/-- A task is another one that starts from a tree of names. -/
inductive Task.NamesOf : Task → Task → Prop where
  | directory {path : List String} : Task.NamesOf (.directory path) (.directory path)
  | contents {path : List String} : Task.NamesOf (.contents path) (.contents path)
  | entries {path names : List String} {legacy enhanced : Directory}
      (found : legacy.NamesOf enhanced) :
      Task.NamesOf (.entries path names legacy) (.entries path names enhanced)
  | entry {path : List String} {name : String} {legacy enhanced : Directory}
      (found : legacy.NamesOf enhanced) :
      Task.NamesOf (.entry path legacy name) (.entry path enhanced name)

/-- A course in one mode is taken in the other with the same counters, and comes to the names of
what it comes to. -/
theorem Descent.names {entered : List (List String)} {task other : Task}
    {metrics counted : ScanMetrics} {enhanced : Directory}
    (descent : Descent (scanner.inMode .records) entered task metrics enhanced counted)
    (same : other.NamesOf task) :
    ∃ legacy : Directory, legacy.NamesOf enhanced ∧
      Descent (scanner.inMode .names) entered other metrics legacy counted := by
  induction descent generalizing other with
  | nowhere leads _ ih =>
    cases same
    obtain ⟨legacy, names, inner⟩ := ih .contents
    exact ⟨legacy, names, .nowhere leads inner⟩
  | cut canonical inside =>
    cases same
    exact ⟨.empty, .empty, .cut canonical inside⟩
  | enter canonical outside _ ih =>
    cases same
    obtain ⟨legacy, names, inner⟩ := ih .contents
    exact ⟨legacy, names, .enter canonical outside inner⟩
  | listed lists _ ih =>
    cases same
    obtain ⟨legacy, names, inner⟩ := ih (.entries .empty)
    exact ⟨legacy, names, .listed lists inner⟩
  | unlisted fails =>
    cases same
    exact ⟨.empty, .empty, .unlisted fails⟩
  | done =>
    cases same with
    | entries found => exact ⟨_, found, .done⟩
  | proceed _ _ first rest =>
    cases same with
    | entries found =>
      obtain ⟨between, grown, here⟩ := first (.entry found)
      obtain ⟨legacy, names, behind⟩ := rest (.entries grown)
      exact ⟨legacy, names, .proceed here behind⟩
  | skip leads skips =>
    cases same with
    | entry found => exact ⟨_, found, .skip leads skips⟩
  | descend leads keeps _ ih =>
    cases same with
    | entry found =>
      obtain ⟨inner, names, below⟩ := ih .directory
      exact ⟨_, found.addDirectory _ names, .descend leads keeps below⟩
  | read leads reading =>
    cases same with
    | entry found =>
      obtain ⟨records, rfl, named⟩ := reading.names
      exact ⟨_, found.addFile _ records, .read leads named⟩

/-- A scan that is not refused comes to where its course comes to. -/
theorem Scanner.scan_of_descent {root : String} {path : List String} {tree : Directory}
    {metrics : ScanMetrics} (starts : scanner.refusal? root path = none)
    (descent : Descent scanner [] (.directory path) .zero tree metrics) :
    scanner.scan root path = .ok (tree, metrics) := by
  obtain ⟨finds, leaves⟩ := Prod.mk.inj descent.runs
  rw [scan, starts]
  exact congrArg Except.ok (Prod.ext finds (congrArg Walk.metrics leaves))

/-- Two scans agree if they fail alike, or if both of them count the same and the tree of the first
holds the names of what the second one holds. -/
inductive Agree : Except ScanFailure (Directory × ScanMetrics) →
    Except ScanFailure (Directory × ScanMetrics) → Prop where
  | failed (failure : ScanFailure) : Agree (.error failure) (.error failure)
  | finished {legacy enhanced : Directory} (names : legacy.NamesOf enhanced)
      (metrics : ScanMetrics) : Agree (.ok (legacy, metrics)) (.ok (enhanced, metrics))

/-- Where the two scans of a project in the two modes fail, they fail alike. With valid settings
and a root that can be listed they succeed, with equal counters and trees that have the same keys
in the same order, and the names of a file are those of its records, one for each. -/
theorem scan_modes_agree (scanner : Scanner) (root : String) (path : List String) :
    Agree ((scanner.inMode .names).scan root path) ((scanner.inMode .records).scan root path) ∧
      (scanner.settings.fault? = none →
        scanner.system.target? path = some (.directory true) →
        ∃ legacy enhanced metrics,
          (scanner.inMode .names).scan root path = .ok (legacy, metrics) ∧
          (scanner.inMode .records).scan root path = .ok (enhanced, metrics) ∧
          legacy.NamesOf enhanced) := by
  have agree :
      Agree ((scanner.inMode .names).scan root path)
        ((scanner.inMode .records).scan root path) := by
    cases starts : scanner.refusal? root path with
    | some failure =>
      rw [Scanner.scan, Scanner.scan, Scanner.inMode_refusal?, Scanner.inMode_refusal?, starts]
      exact .failed failure
    | none =>
      have started (mode : OutputMode) : (scanner.inMode mode).refusal? root path = none := starts
      have course : Descent _ [] (.directory path) .zero _ _ :=
        (Task.directory path).descends (scanner.inMode .records) .start
      obtain ⟨legacy, names, descent⟩ := course.names .directory
      rw [Scanner.scan_of_descent (started .names) descent,
        Scanner.scan_of_descent (started .records) course]
      exact .finished names _
  refine ⟨agree, fun valid listable => ?_⟩
  obtain ⟨enhanced, metrics, completes, _⟩ :=
    @Scanner.scan_starts (scanner.inMode .records) root path valid listable
  rw [completes] at agree
  generalize (scanner.inMode .names).scan root path = result at agree
  cases agree with
  | finished names metrics => exact ⟨_, _, _, rfl, completes, names⟩

/-- The name in the tree of names is that of the one record in the other tree. -/
theorem scan_modes_agree_of_counted : ∃ legacy enhanced metrics,
    (counted.inMode .names).scan "." [] = .ok (legacy, metrics) ∧
      (counted.inMode .records).scan "." [] = .ok (enhanced, metrics) ∧
      legacy.NamesOf enhanced ∧ legacy.file? "a.py" = some (.names ["a"]) := by
  obtain ⟨legacy, enhanced, metrics, first, second, names⟩ :=
    (scan_modes_agree counted "." []).2 (by decide) (by cbv)
  cases (Scanner.scan_descent first).runs.symm.trans descent_counted.runs
  exact ⟨_, enhanced, _, first, second, names, rfl⟩

end Scan

end ExportIndex
