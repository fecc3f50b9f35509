import ExportIndex.Component.Exports
import ExportIndex.JavaScript.Exports
import ExportIndex.Language
import ExportIndex.Python.Exports
import ExportIndex.Python.Grammar
import ExportIndex.Script.Grammar
import ExportIndex.TypeScript.Exports

/-
This file names the parsers and chooses those that index a file.
-/

namespace ExportIndex

/-- The grammars that the parsers ask for trees. -/
structure Grammars where
  plain : Grammar
  typed : Grammar
  typedElements : Grammar
  python : Grammar

def Grammars.standard : Grammars where
  plain := Script.grammar .plain
  typed := Script.grammar .typed
  typedElements := Script.grammar .typedElements
  python := Python.grammar

inductive Parser where
  | javaScript
  | typeScript
  | component
  | python
deriving DecidableEq, Repr, Inhabited

namespace Parser

def all : List Parser := [javaScript, typeScript, component, python]

def name : Parser → String
  | javaScript => "javascript"
  | typeScript => "typescript"
  | component => "jsx"
  | python => "python"

/-- How the names of the files end that a parser can parse. -/
def endings : Parser → List String
  | javaScript => [".js", ".jsx", ".ts", ".tsx", ".mjs"]
  | typeScript => [".ts", ".tsx"]
  | component => [".jsx", ".tsx"]
  | python => Python.endings

def canParse (parser : Parser) (path : FilePath) : Bool := path.hasEnding parser.endings

/-- The records that a parser finds in a source under given grammars. -/
def exportsUnder (grammars : Grammars) (programs : Python.Programs) (settings : ParserSettings)
    (parser : Parser) (path : FilePath) (source : String) :
    Except ParseFailure (List ExportRecord) :=
  match parser with
  | javaScript => JavaScript.exports grammars.plain settings path source
  | typeScript => TypeScript.exports grammars.typed grammars.typedElements settings path source
  | component => Component.exports grammars.plain grammars.typedElements settings path source
  | python => Python.exports grammars.python programs settings path source

/-- The records that a parser finds; a source that fails has none. -/
def foundUnder (grammars : Grammars) (programs : Python.Programs) (settings : ParserSettings)
    (parser : Parser) (path : FilePath) (source : String) : List ExportRecord :=
  match parser.exportsUnder grammars programs settings path source with
  | .ok records => records
  | .error _ => []

/-- The names of the records that a parser finds. -/
def namesUnder (grammars : Grammars) (programs : Python.Programs) (settings : ParserSettings)
    (parser : Parser) (path : FilePath) (source : String) : List String :=
  ExportRecord.names (parser.foundUnder grammars programs settings path source)

def exports (programs : Python.Programs) (settings : ParserSettings) (parser : Parser)
    (path : FilePath) (source : String) : Except ParseFailure (List ExportRecord) :=
  parser.exportsUnder .standard programs settings path source

def exportedNames (programs : Python.Programs) (settings : ParserSettings) (parser : Parser)
    (path : FilePath) (source : String) : List String :=
  parser.namesUnder .standard programs settings path source

end Parser

/-- The parsers for a language; the records of earlier ones win. -/
def SourceLanguage.parsers : SourceLanguage → List Parser
  | javaScript => [.javaScript]
  | typeScript => [.typeScript]
  | typeScriptElements => [.typeScript, .component]
  | elements => [.component]
  | python => [.python]
  | other => []

/-- The records of a file, and whether every parser for it has failed. -/
structure Extraction where
  records : List ExportRecord
  failed : Bool
deriving DecidableEq, Repr, Inhabited

namespace Extraction

/-- The records of a parser that has not failed. -/
def batch? : Except ParseFailure (List ExportRecord) → Option (List ExportRecord)
  | .ok records => some records
  | .error _ => none

def isFailure : Except ParseFailure (List ExportRecord) → Bool
  | .ok _ => false
  | .error failure => !failure.isUnsupported

/-- Merges what the parsers give. Without a parser there is nothing to fail. -/
def ofResults (results : List (Except ParseFailure (List ExportRecord))) : Extraction :=
  ⟨ExportRecord.merge (results.filterMap batch?), results ≠ [] && results.all isFailure⟩

end Extraction

/-- The records that the parsers for a language find in a source under given grammars. -/
def extractUnder (grammars : Grammars) (programs : Python.Programs) (settings : ParserSettings)
    (language : SourceLanguage) (path : FilePath) (source : String) : Extraction :=
  .ofResults (language.parsers.map fun parser =>
    parser.exportsUnder grammars programs settings path source)

def extract (programs : Python.Programs) (settings : ParserSettings)
    (language : SourceLanguage) (path : FilePath) (source : String) : Extraction :=
  extractUnder .standard programs settings language path source

end ExportIndex
