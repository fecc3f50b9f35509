import ExportIndex.Arena.OfTree
import ExportIndex.JavaScript.Check
import ExportIndex.JavaScript.Erasure

/-
This file finds a tree for a source: as a module, else as a script, else, for typed
sources, as a script without its types.
-/

namespace ExportIndex.JavaScript

/-- The extensions of untyped and typed sources. -/
def extensions : List String := ["js", "jsx", "ts", "tsx", "mjs"]

/-- Extensions that end in `x` allow elements. -/
def allowsElements (extension : String) : Bool :=
  extension.toList.getLast? == some 'x'

def isTyped (extension : String) : Bool := ["ts", "tsx"].contains extension

/-- The tree of the first step that accepts the source, or the failure of the last. -/
def accepted (grammar : Grammar) (path : FilePath) (extension source : String) :
    Except ParseFailure Arena := do
  let elements := allowsElements extension
  let arena := Arena.ofTree source (grammar source)
  match validated arena path .module elements with
  | .ok _ => return arena
  | .error _ =>
    match validated arena path .script elements with
    | .ok _ => return arena
    | .error failure =>
      if isTyped extension then
        let erased := Erasure.erase source
        let arena := Arena.ofTree erased (grammar erased)
        validated arena path .script elements
        return arena
      else throw failure

end ExportIndex.JavaScript
