import ExportIndex.Arena

/-
This file lays a tree out in an arena: its nodes are numbered in pre-order, and
the root is number zero.
-/

namespace ExportIndex.Arena

mutual
/-- Adds a tree; its root gets the next number. -/
def addTree (arena : Arena) : ParseTree → Arena
  | .node label children =>
    let id := arena.size
    (arena.pushLabel label).addChildren id children

def addChildren (arena : Arena) (parent : Nat) : List (Option String × ParseTree) → Arena
  | [] => arena
  | (field, child) :: rest =>
    let id := arena.size
    ((arena.addTree child).attach parent field id).addChildren parent rest
end

def ofTree (source : String) (tree : ParseTree) : Arena := (empty source).addTree tree

mutual
theorem sizeAddTree (arena : Arena) : (tree : ParseTree) →
    (arena.addTree tree).size = arena.size + tree.size
  | .node label children => by
    rw [addTree, sizeAddChildren, sizePushLabel, ParseTree.size]
    omega

theorem sizeAddChildren (arena : Arena) (parent : Nat) :
    (children : List (Option String × ParseTree)) →
      (arena.addChildren parent children).size =
        arena.size + ParseTree.sizeOfChildren children
  | [] => by simp [addChildren, ParseTree.sizeOfChildren]
  | (field, child) :: rest => by
    rw [addChildren, sizeAddChildren, sizeAttach, sizeAddTree, ParseTree.sizeOfChildren]
    omega
end

end ExportIndex.Arena
