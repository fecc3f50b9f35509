import ExportIndex.Python.Interpreter
import ExportIndex.Python.TopLevel
import ExportIndex.Record.Merge
import ExportIndex.Settings

/-
This file collects the public names of Python modules, from an interpreter or from
the grammar.
-/

namespace ExportIndex.Python

def endings : List String := [".py"]

/-- The way in which names are found once it is known which programs there are. -/
inductive Backend where
  | interpreter
  | embedded
  /-- The interpreter is demanded but not there, so that no names are found. -/
  | unavailable
deriving DecidableEq, Repr

def Backend.name : Backend → String
  | interpreter => "interpreter"
  | embedded => "embedded"
  | unavailable => "unavailable"

def backend (programs : Programs) (settings : ParserSettings) : Backend :=
  let available := programs.isAvailable settings.pythonInterpreter
  match settings.pythonBackend with
  | .embedded => .embedded
  | .interpreter => if available then .interpreter else .unavailable
  | .auto => if available then .interpreter else .embedded

/-- Whether a name is private by convention. -/
def isPrivate (name : String) : Bool := name.toList.head? == some '_'

/-- The names that are not private, each once. -/
def publicNames (names : List String) : List String :=
  firstOfEach id [""] (names.filter fun name => !isPrivate name)

/-- A finder of public names, which keeps the backend that it has once chosen. -/
structure Service where
  settings : ParserSettings
  chosen : Option Backend
deriving DecidableEq, Repr

namespace Service

def new (settings : ParserSettings) : Service := ⟨settings, none⟩

/-- The backend that is kept, or the one that the programs there are now suggest. -/
def backend (service : Service) (programs : Programs) : Backend :=
  service.chosen.getD (Python.backend programs service.settings)

/-- The service after its backend has been asked for. -/
def decided (service : Service) (programs : Programs) : Service :=
  { service with chosen := some (service.backend programs) }

def isTooLarge (service : Service) (source : String) : Bool :=
  service.settings.maxFileSize.toNat < source.utf8ByteSize

/-- The names that the backend finds, private ones included. -/
def found (service : Service) (grammar : Grammar) (programs : Programs) (path : FilePath)
    (source : String) : Except ParseFailure (List String) :=
  match service.backend programs with
  | .interpreter =>
    interpreted programs service.settings.pythonInterpreter service.settings.pythonTimeout path
      source
  | .embedded => topLevel grammar path source
  | .unavailable => .ok []

/-- The public names of a module. -/
def symbols (service : Service) (grammar : Grammar) (programs : Programs) (path : FilePath)
    (source : String) : Except ParseFailure (List String) :=
  if service.isTooLarge source then .error (.fileTooLarge path source.utf8ByteSize)
  else (service.found grammar programs path source).map publicNames

/-- The service after a module has been looked at. -/
def afterSymbols (service : Service) (programs : Programs) (source : String) : Service :=
  if service.isTooLarge source then service else service.decided programs

/-- The records of the public names. The kinds of the symbols are not known. -/
def exports (service : Service) (grammar : Grammar) (programs : Programs) (path : FilePath)
    (source : String) : Except ParseFailure (List ExportRecord) :=
  if path.hasEnding endings then
    (service.symbols grammar programs path source).map fun names =>
      names.map (ExportRecord.named · .unknown)
  else .error (.unsupportedExtension path)

end Service

/-- What a finder finds that has looked at no module before. -/
def exports (grammar : Grammar) (programs : Programs) (settings : ParserSettings)
    (path : FilePath) (source : String) : Except ParseFailure (List ExportRecord) :=
  (Service.new settings).exports grammar programs path source

end ExportIndex.Python
