import ExportIndex.Directory
import ExportIndex.Extraction
import ExportIndex.FileSystem
import ExportIndex.Metrics
import ExportIndex.Text.Utf8

/-
This file says what a scan depends on and what it reports and counts of a file.
-/

namespace ExportIndex

namespace ScanMetrics

def seeFile (metrics : ScanMetrics) : ScanMetrics :=
  { metrics with filesSeen := metrics.filesSeen + 1 }

def missFile (metrics : ScanMetrics) : ScanMetrics :=
  { metrics with readFailures := metrics.readFailures + 1 }

/-- Counts a file that the parsers have read, and how much is reported of it. -/
def parseFile (metrics : ScanMetrics) (failed : Bool) (records : Nat) : ScanMetrics :=
  { metrics with
    filesParsed := metrics.filesParsed + 1
    parseFailures := metrics.parseFailures + if failed then 1 else 0
    totalRecords := metrics.totalRecords + UInt64.ofNat records }

def scanDirectory (metrics : ScanMetrics) : ScanMetrics :=
  { metrics with directoriesScanned := metrics.directoriesScanned + 1 }

def skipDirectory (metrics : ScanMetrics) : ScanMetrics :=
  { metrics with directoriesSkipped := metrics.directoriesSkipped + 1 }

def failDirectory (metrics : ScanMetrics) : ScanMetrics :=
  { metrics with directoryFailures := metrics.directoryFailures + 1 }

end ScanMetrics

namespace Scan

/-- What a scan depends on. -/
structure Project where
  system : FileSystem
  programs : Python.Programs
  settings : ScanSettings

/-- A project and the grammars that its files are read by. -/
structure Scanner extends Project where
  grammars : Grammars

def Project.scanner (project : Project) : Scanner := { project with grammars := .standard }

/-- What is reported of records in a mode. -/
def shape (mode : OutputMode) (records : List ExportRecord) : FileExports :=
  match mode with
  | .names => .names (ExportRecord.names records)
  | .records => .records records

/-- What a scan does while it counts. -/
abbrev Counting := StateM ScanMetrics

namespace Scanner

def noExports (scanner : Scanner) : FileExports := shape scanner.settings.mode []

/-- A file is read if some parser knows its language and it is not too large. -/
def admits (scanner : Scanner) (name : String) (bytes : List UInt8) : Bool :=
  (SourceLanguage.ofPath ⟨name⟩).isSupported &&
    bytes.length ≤ scanner.settings.parser.maxFileSize.toNat

/-- What the parsers find in the bytes of a file. -/
def extraction (scanner : Scanner) (name : String) (bytes : List UInt8) : Extraction :=
  extractUnder scanner.grammars scanner.programs scanner.settings.parser
    (SourceLanguage.ofPath ⟨name⟩) ⟨name⟩ (String.ofList (Text.Utf8.decode bytes))

/-- Reads a file. One that is not admitted is only seen. -/
def file (scanner : Scanner) (name : String) (bytes : List UInt8) (readable : Bool) :
    Counting FileExports := do
  modify .seeFile
  if !scanner.admits name bytes then
    return scanner.noExports
  else if !readable then
    modify .missFile
    return scanner.noExports
  else
    let extraction := scanner.extraction name bytes
    let exports := shape scanner.settings.mode extraction.records
    modify fun metrics => metrics.parseFile extraction.failed exports.count
    return exports

/-- Reads what is no directory. An entry that leads nowhere counts as a file that cannot
be read. -/
def plain (scanner : Scanner) (name : String) : Option FileContent → Counting FileExports
  | some (.file bytes readable) => scanner.file name bytes readable
  | _ => do
    modify .seeFile
    modify .missFile
    return scanner.noExports

/-- What becomes of an entry that is no directory: what is reported of it, and how it changes
the counters. -/
inductive Reading (scanner : Scanner) (name : String) :
    Option FileContent → FileExports → (ScanMetrics → ScanMetrics) → Prop where
  | lost {content : Option FileContent}
      (nothing : ∀ bytes readable, content ≠ some (.file bytes readable)) :
      Reading scanner name content scanner.noExports fun metrics => metrics.seeFile.missFile
  | refused {bytes : List UInt8} {readable : Bool} (refused : scanner.admits name bytes = false) :
      Reading scanner name (some (.file bytes readable)) scanner.noExports .seeFile
  | unreadable {bytes : List UInt8} (admitted : scanner.admits name bytes = true) :
      Reading scanner name (some (.file bytes false)) scanner.noExports
        fun metrics => metrics.seeFile.missFile
  | parsed {bytes : List UInt8} (admitted : scanner.admits name bytes = true) :
      Reading scanner name (some (.file bytes true))
        (shape scanner.settings.mode (scanner.extraction name bytes).records)
        fun metrics => metrics.seeFile.parseFile (scanner.extraction name bytes).failed
          (shape scanner.settings.mode (scanner.extraction name bytes).records).count

theorem Reading.runs {scanner : Scanner} {name : String} {content : Option FileContent}
    {exports : FileExports} {count : ScanMetrics → ScanMetrics}
    (reading : Reading scanner name content exports count) (metrics : ScanMetrics) :
    (scanner.plain name content).run metrics = (exports, count metrics) := by
  cases reading with
  | lost nothing =>
    match content with
    | none | some (.directory _) | some (.link _) => rfl
    | some (.file bytes readable) => exact absurd rfl (nothing bytes readable)
  | refused refused =>
    rw [plain, file]
    simp only [refused, Bool.not_false, if_true]
    rfl
  | unreadable admitted =>
    rw [plain, file]
    simp only [admitted, Bool.not_true, Bool.not_false, Bool.false_eq_true, if_true, if_false]
    rfl
  | parsed admitted =>
    rw [plain, file]
    simp only [admitted, Bool.not_true, Bool.false_eq_true, if_false]
    rfl

theorem plain_reading (scanner : Scanner) (name : String) (content : Option FileContent) :
    ∃ exports count, Reading scanner name content exports count := by
  match content with
  | none | some (.directory _) | some (.link _) => exact ⟨_, _, .lost (by simp)⟩
  | some (.file bytes readable) =>
    cases admitted : scanner.admits name bytes with
    | false => exact ⟨_, _, .refused admitted⟩
    | true =>
      cases readable with
      | false => exact ⟨_, _, .unreadable admitted⟩
      | true => exact ⟨_, _, .parsed admitted⟩

end Scanner

end Scan

end ExportIndex
