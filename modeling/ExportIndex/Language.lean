import ExportIndex.FilePath

/-
This file tells languages apart by the extensions of files.
-/

namespace ExportIndex

inductive SourceLanguage where
  | javaScript
  | typeScript
  | typeScriptElements
  | elements
  | python
  | other
deriving DecidableEq, Repr, Inhabited

namespace SourceLanguage

def all : List SourceLanguage :=
  [javaScript, typeScript, typeScriptElements, elements, python, other]

def name : SourceLanguage → String
  | javaScript => "javascript"
  | typeScript => "typescript"
  | typeScriptElements => "tsx"
  | elements => "jsx"
  | python => "python"
  | other => "other"

def ofPath (path : FilePath) : SourceLanguage :=
  match path.extension? with
  | some "js" | some "mjs" => javaScript
  | some "ts" => typeScript
  | some "tsx" => typeScriptElements
  | some "jsx" => elements
  | some "py" => python
  | _ => other

def isSupported (language : SourceLanguage) : Bool := language != other

end SourceLanguage

end ExportIndex
