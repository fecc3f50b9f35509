import ExportIndex.FilePath
import ExportIndex.Text.Capital

/-
This file names the default exports that have no name of their own.
-/

namespace ExportIndex

/-- How a default export without a name of its own is called. -/
inductive AnonymousDefault where
  /-- Like the file without its extension, with a capital. -/
  | capitalizedStem
  | literal (name : String)
deriving DecidableEq, Repr

def AnonymousDefault.nameFor (policy : AnonymousDefault) (path : FilePath) : String :=
  match policy with
  | literal name => name
  | capitalizedStem =>
    String.ofList (Text.capitalize ((path.stem?.map String.toList).getD []))

end ExportIndex
