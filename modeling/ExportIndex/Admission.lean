import ExportIndex.Failure
import ExportIndex.Settings

/-
This file decides which sources a parser looks at.
-/

namespace ExportIndex

/-- The extension of a path if it is one of the given ones and the source is not too
large. -/
def admitted (settings : ParserSettings) (extensions : List String) (path : FilePath)
    (source : String) : Except ParseFailure String := do
  let extension ← match path.extension?.filter extensions.contains with
    | some extension => pure extension
    | none => throw (.unsupportedExtension path)
  if settings.maxFileSize.toNat < source.utf8ByteSize then
    throw (.fileTooLarge path source.utf8ByteSize)
  return extension

end ExportIndex
