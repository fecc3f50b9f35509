import ExportIndex.Json.Shape
import ExportIndex.Metrics

/-
This file writes the metrics of scans as JSON and reads them back.
-/

namespace ExportIndex.ScanMetrics

def fieldNames : List String :=
  ["files_seen", "files_parsed", "parse_failures", "read_failures", "directories_scanned",
    "directories_skipped", "directory_failures", "total_records", "total_scan_time"]

/-- The counters, without the duration. -/
def counters (metrics : ScanMetrics) : List (String × Json) :=
  [ ("files_seen", .integer metrics.filesSeen.toNat),
    ("files_parsed", .integer metrics.filesParsed.toNat),
    ("parse_failures", .integer metrics.parseFailures.toNat),
    ("read_failures", .integer metrics.readFailures.toNat),
    ("directories_scanned", .integer metrics.directoriesScanned.toNat),
    ("directories_skipped", .integer metrics.directoriesSkipped.toNat),
    ("directory_failures", .integer metrics.directoryFailures.toNat),
    ("total_records", .integer metrics.totalRecords.toNat) ]

/-- Of the duration the lowest 64 bits are written. -/
def toJson (metrics : ScanMetrics) : Json :=
  let duration : Nat := metrics.scanTime % UInt64.size
  .object (metrics.counters ++ [("total_scan_time", .integer duration)])

def ofJson? (json : Json) : Option ScanMetrics := do
  let field ← json.fields? fieldNames 9
  let counter := fun name => Json.required? Json.toUInt64? (field name)
  return {
    filesSeen := ← counter "files_seen"
    filesParsed := ← counter "files_parsed"
    parseFailures := ← counter "parse_failures"
    readFailures := ← counter "read_failures"
    directoriesScanned := ← counter "directories_scanned"
    directoriesSkipped := ← counter "directories_skipped"
    directoryFailures := ← counter "directory_failures"
    totalRecords := ← counter "total_records"
    scanTime := (← counter "total_scan_time").toNat }

end ExportIndex.ScanMetrics
