import ExportIndex.Arena.Walk
import ExportIndex.Failure

/-
This file accepts the trees without error or missing nodes.
-/

namespace ExportIndex.Arena

/-- Rows and columns count from one in failures. -/
def checked (arena : Arena) (path : FilePath) : Except ParseFailure Unit :=
  match arena.firstError? with
  | none => .ok ()
  | some node =>
    .error (.underivable path (node.row + 1) (node.column + 1)
      (if node.isMissing then some node.kind else none))

/-- The failure of a node that may not be where it is. -/
def violation (arena : Arena) (path : FilePath) (id : Nat) (violation : Violation) :
    ParseFailure :=
  match arena.node? id with
  | some node => .violated path (node.row + 1) (node.column + 1) violation
  | none => .violated path 1 1 violation

end ExportIndex.Arena
