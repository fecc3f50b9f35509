/-
This file names the dialects of the script languages.
-/

namespace ExportIndex.Script

inductive Dialect where
  /-- Untyped, with elements. -/
  | plain
  /-- Typed, with type assertions in angle brackets. -/
  | typed
  /-- Typed, with elements. -/
  | typedElements
deriving DecidableEq, Repr

namespace Dialect

def isTyped (dialect : Dialect) : Bool := dialect != .plain

def hasElements (dialect : Dialect) : Bool := dialect != .typed

end Dialect

end ExportIndex.Script
