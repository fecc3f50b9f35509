import ExportIndex.Text.Blank

/-
This file defines the settings of the parsers and of a scan, and says which of
them are valid.
-/

namespace ExportIndex

/-- How the symbols of Python sources are found. -/
inductive PythonBackend where
  /-- The interpreter if it answers, else the grammar. -/
  | auto
  | interpreter
  | embedded
deriving DecidableEq, Repr, Inhabited

structure ParserSettings where
  /-- The greatest number of bytes that is still parsed. -/
  maxFileSize : UInt64
  pythonBackend : PythonBackend
  pythonInterpreter : String
  /-- The time limit of one run of the interpreter, in milliseconds. -/
  pythonTimeout : UInt64
deriving DecidableEq, Repr, Inhabited

namespace ParserSettings

/-- Ten megabytes and five seconds. -/
def standard : ParserSettings := ⟨10 * 1024 * 1024, .auto, "python3", 5000⟩

/-- Why settings are not valid. -/
inductive Fault where
  | noFileSize
  | blankInterpreter
  | noTimeout
  | emptySkippedName
deriving DecidableEq, Repr

def Fault.message : Fault → String
  | .noFileSize => "max_file_size must be greater than 0"
  | .blankInterpreter => "python_interpreter cannot be empty"
  | .noTimeout => "python_timeout must be greater than 0"
  | .emptySkippedName => "skip_dirs cannot contain an empty name"

/-- The first fault of the settings. -/
def fault? (settings : ParserSettings) : Option Fault :=
  if settings.maxFileSize = 0 then some .noFileSize
  else if Text.trim settings.pythonInterpreter.toList = [] then some .blankInterpreter
  else if settings.pythonTimeout = 0 then some .noTimeout
  else none

end ParserSettings

/-- What a scan reports of a file. -/
inductive OutputMode where
  /-- The exported names alone. -/
  | names
  /-- The records of the exports. -/
  | records
deriving DecidableEq, Repr, Inhabited

structure ScanSettings where
  /-- Names of directories that are not entered. -/
  skippedNames : List String
  mode : OutputMode
  parser : ParserSettings
deriving DecidableEq, Repr, Inhabited

namespace ScanSettings

def standardSkippedNames : List String :=
  ["node_modules", ".git", ".next", "dist", "build", "__pycache__", "venv", "env",
    ".venv", ".env", "site-packages"]

def standard : ScanSettings := ⟨standardSkippedNames, .names, .standard⟩

def fault? (settings : ScanSettings) : Option ParserSettings.Fault :=
  if settings.skippedNames.contains "" then some .emptySkippedName
  else settings.parser.fault?

/-- Hidden directories are skipped whatever the list says. -/
def skips (settings : ScanSettings) (name : String) : Bool :=
  name.toList.head? == some '.' || settings.skippedNames.contains name

end ScanSettings

end ExportIndex
