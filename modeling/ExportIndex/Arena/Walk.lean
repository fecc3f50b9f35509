import ExportIndex.Arena

/-
This file walks over arenas: depth first, a node before its children, and every
node at most once. Edges to parents are not followed.
-/

namespace ExportIndex.Arena

/-- The targets of the edges that lead down. -/
def successors (node : Node) : List Nat :=
  (node.edges.filter fun edge => edge.1 ≠ "parent").map Prod.snd

theorem countSetLess (visited : Array Bool) (id : Nat) (fresh : visited[id]? = some false) :
    (visited.setIfInBounds id true).count false < visited.count false := by
  obtain ⟨inRange, unseen⟩ := Array.getElem?_eq_some_iff.mp fresh
  have member : 0 < visited.count false :=
    Array.count_pos_iff.mpr (unseen ▸ Array.getElem_mem inRange)
  rw [Array.setIfInBounds, dif_pos inRange, Array.count_set, unseen]
  exact Nat.sub_lt member Nat.one_pos

/-- The nodes to be visited when those on the stack wait. -/
def walkFrom (arena : Arena) (visited : Array Bool) : List Nat → List Nat
  | [] => []
  | id :: rest =>
    if _fresh : visited[id]? = some false then
      id :: arena.walkFrom (visited.setIfInBounds id true)
        ((arena.node? id).elim [] successors ++ rest)
    else arena.walkFrom visited rest
termination_by stack => (visited.count false, stack.length)
decreasing_by
  · exact Prod.Lex.left _ _ (countSetLess visited id _fresh)
  · exact Prod.Lex.right _ (Nat.lt_succ_self _)

/-- The nodes in the order in which a walk visits them. -/
def walk (arena : Arena) (start : Nat) : List Nat :=
  arena.walkFrom (Array.replicate arena.size false) [start]

/-- The first error or missing node of a tree. -/
def firstError? (arena : Arena) : Option Node :=
  ((arena.walk 0).filterMap arena.node?).find? fun node => node.isError || node.isMissing

def hasError (arena : Arena) : Bool := arena.firstError?.isSome

end ExportIndex.Arena
