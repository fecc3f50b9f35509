import ExportIndex.FilePath
import ExportIndex.Text.Utf8

/-
This file takes the extensions of paths that need not be text. One that is no UTF-8 is either no
extension at all or read with replacements.
-/

namespace ExportIndex

/-- The path of a file, as the system has it. -/
structure RawPath where
  bytes : List UInt8
deriving DecidableEq, Repr, Inhabited

namespace RawPath

def marks : FilePath.Marks UInt8 := ⟨0x2f, 0x2e⟩

def extension? (path : RawPath) : Option (List UInt8) := marks.extension? path.bytes

/-- The extension, if it is UTF-8. -/
def strictExtension? (path : RawPath) : Option String :=
  path.extension?.bind fun bytes => String.fromUTF8? bytes.toByteArray

/-- The extension, with replacements where it is no UTF-8. -/
def lossyExtension? (path : RawPath) : Option String :=
  path.extension?.map fun bytes => String.ofList (Text.Utf8.decode bytes)

/-- The path as a text, with replacements where it is no UTF-8. -/
def shown (path : RawPath) : FilePath := ⟨String.ofList (Text.Utf8.decode path.bytes)⟩

end RawPath

end ExportIndex
