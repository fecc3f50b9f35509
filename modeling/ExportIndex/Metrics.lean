/-
This file counts what a scan meets. Counters have 64 bits and a sum that does
not fit is no sum.
-/

namespace ExportIndex

/-- The sum of two counters, if it fits. -/
def checkedAdd (first second : UInt64) : Option UInt64 :=
  if first.toNat + second.toNat < UInt64.size then some (first + second) else none

structure ScanMetrics where
  filesSeen : UInt64
  filesParsed : UInt64
  parseFailures : UInt64
  readFailures : UInt64
  directoriesScanned : UInt64
  directoriesSkipped : UInt64
  directoryFailures : UInt64
  totalRecords : UInt64
  /-- The duration of the scan in parts of a second, which are milliseconds where it is written. -/
  scanTime : Nat
deriving DecidableEq, Repr, Inhabited

namespace ScanMetrics

def zero : ScanMetrics := ⟨0, 0, 0, 0, 0, 0, 0, 0, 0⟩

/-- The sum of two durations in parts of a second, if it fits. Durations have whole seconds of 64
bits. -/
def checkedDuration (parts first second : Nat) : Option Nat :=
  if (first + second) / parts < UInt64.size then some (first + second) else none

/-- The sum of metrics whose durations are in the same parts of a second, if it fits. -/
def mergeIn? (parts : Nat) (first second : ScanMetrics) : Option ScanMetrics := do
  return {
    filesSeen := ← checkedAdd first.filesSeen second.filesSeen
    filesParsed := ← checkedAdd first.filesParsed second.filesParsed
    parseFailures := ← checkedAdd first.parseFailures second.parseFailures
    readFailures := ← checkedAdd first.readFailures second.readFailures
    directoriesScanned := ← checkedAdd first.directoriesScanned second.directoriesScanned
    directoriesSkipped := ← checkedAdd first.directoriesSkipped second.directoriesSkipped
    directoryFailures := ← checkedAdd first.directoryFailures second.directoryFailures
    totalRecords := ← checkedAdd first.totalRecords second.totalRecords
    scanTime := ← checkedDuration parts first.scanTime second.scanTime }

/-- The sum of metrics whose durations are in milliseconds. -/
def merge? : ScanMetrics → ScanMetrics → Option ScanMetrics := mergeIn? 1000

/-- The parsed files that no failure is counted for. -/
def succeeded (metrics : ScanMetrics) : UInt64 :=
  if metrics.parseFailures ≤ metrics.filesParsed then metrics.filesParsed - metrics.parseFailures
  else 0

/-- The share of the parsed files that gave a result, or zero. -/
def successRate (metrics : ScanMetrics) : Float :=
  if metrics.filesParsed = 0 then 0
  else metrics.succeeded.toFloat / metrics.filesParsed.toFloat

/-- Records for each file that gave a result, or zero. -/
def recordsPerFile (metrics : ScanMetrics) : Float :=
  if metrics.succeeded = 0 then 0
  else metrics.totalRecords.toFloat / metrics.succeeded.toFloat

end ScanMetrics

end ExportIndex
