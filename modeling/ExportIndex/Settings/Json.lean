import ExportIndex.Json.Shape
import ExportIndex.Settings

/-
This file writes settings as JSON and reads them back.
-/

namespace ExportIndex

namespace PythonBackend

def all : List PythonBackend := [auto, interpreter, embedded]

def name : PythonBackend → String
  | auto => "auto"
  | interpreter => "interpreter"
  | embedded => "embedded"

def ofJson? : Json → Option PythonBackend := Json.oneOf? name all

end PythonBackend

namespace ParserSettings

def fieldNames : List String :=
  ["max_file_size", "python_backend", "python_interpreter", "python_timeout_ms"]

def toJson (settings : ParserSettings) : Json :=
  .object
    [ ("max_file_size", .integer settings.maxFileSize.toNat),
      ("python_backend", .text settings.pythonBackend.name),
      ("python_interpreter", .text settings.pythonInterpreter),
      ("python_timeout_ms", .integer settings.pythonTimeout.toNat) ]

def ofJson? (json : Json) : Option ParserSettings := do
  let field ← json.fields? fieldNames 4
  return {
    maxFileSize := ← Json.required? Json.toUInt64? (field "max_file_size")
    pythonBackend := ← Json.required? PythonBackend.ofJson? (field "python_backend")
    pythonInterpreter := ← Json.required? Json.toText? (field "python_interpreter")
    pythonTimeout := ← Json.required? Json.toUInt64? (field "python_timeout_ms") }

end ParserSettings

namespace OutputMode

def all : List OutputMode := [names, records]

def name : OutputMode → String
  | names => "legacy"
  | records => "enhanced"

def ofJson? : Json → Option OutputMode := Json.oneOf? name all

end OutputMode

namespace ScanSettings

def fieldNames : List String := ["skip_dirs", "mode", "parser"]

def toJson (settings : ScanSettings) : Json :=
  .object
    [ ("skip_dirs", .list (settings.skippedNames.map .text)),
      ("mode", .text settings.mode.name),
      ("parser", settings.parser.toJson) ]

def ofJson? (json : Json) : Option ScanSettings := do
  let field ← json.fields? fieldNames 3
  return {
    skippedNames := ← Json.required? (Json.toListOf? Json.toText?) (field "skip_dirs")
    mode := ← Json.required? OutputMode.ofJson? (field "mode")
    parser := ← Json.required? ParserSettings.ofJson? (field "parser") }

end ScanSettings

end ExportIndex
