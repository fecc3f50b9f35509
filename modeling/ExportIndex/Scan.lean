import ExportIndex.Scan.Walk

/-
This file scans a project. A scan fails only if its settings are invalid or its root is
no directory that lists its entries.
-/

namespace ExportIndex

/-- Why a scan does not start. -/
inductive ScanFailure where
  | invalidSettings (fault : ParserSettings.Fault)
  | rootNotFound (root : String) (fault : LookupFault)
  | rootNotDirectory (root : String)
  | rootNotListable (root : String)
deriving DecidableEq, Repr

def ScanFailure.message : ScanFailure → String
  | invalidSettings fault => "Invalid configuration: " ++ fault.message
  | rootNotFound root fault => "Scan root " ++ root ++ " not found: " ++ fault.message
  | rootNotDirectory root => "Scan root " ++ root ++ " is not a directory"
  | rootNotListable root =>
    "Scan root " ++ root ++ " is not readable: Permission denied (os error 13)"

namespace Scan

namespace Scanner

/-- Why a scan of the directory at a path cannot start. -/
def refusal? (scanner : Scanner) (root : String) (path : List String) : Option ScanFailure :=
  match scanner.settings.fault? with
  | some fault => some (.invalidSettings fault)
  | none =>
    match scanner.system.resolve path with
    | .error fault => some (.rootNotFound root fault)
    | .ok place =>
      match scanner.system.content? place with
      | some (.directory true) => none
      | some (.directory false) => some (.rootNotListable root)
      | _ => some (.rootNotDirectory root)

/-- Scans the directory at a path below the root of the file system, which messages
call by the given name. -/
def scan (scanner : Scanner) (root : String) (path : List String) :
    Except ScanFailure (Directory × ScanMetrics) :=
  match scanner.refusal? root path with
  | some failure => .error failure
  | none =>
    let visit := scanner.directory path .start
    .ok (visit.found, visit.after.metrics)

end Scanner

/-- Scans the directory at a path of a project. -/
def run (project : Project) (root : String) (path : String) :
    Except ScanFailure (Directory × ScanMetrics) :=
  project.scanner.scan root (FileSystem.steps path)

end Scan

end ExportIndex
