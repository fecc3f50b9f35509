import ExportIndex.Arena.Cursor
import ExportIndex.Proofs.Arena.Address
import ExportIndex.Proofs.Related
import Mathlib

/-
This file shows that a tree is laid out in the same way through a cursor, with a stack of parents,
and by recursion. An edge that is there before what lies below it makes no difference.
-/

namespace ExportIndex

namespace Arena

/-- Arenas with the same text and the same nodes are the same. -/
theorem eq_of_nodes {first second : Arena} (characters : first.characters = second.characters)
    (nodes : ∀ id, first.node? id = second.node? id) : first = second := by
  cases first
  cases second
  exact congrArg₂ Arena.mk characters (Array.ext_getElem? nodes)

variable (arena : Arena) {parent child : Nat} (field : Option String)

theorem attach_pushLabel (parentInRange : parent < arena.size) (childInRange : child < arena.size)
    (label : Label) :
    (arena.attach parent field child).pushLabel label =
      (arena.pushLabel label).attach parent field child := by
  refine eq_of_nodes rfl fun id => ?_
  rw [node?_pushLabel, node?_attach, node?_attach, node?_pushLabel, sizeAttach]
  by_cases newest : id = arena.size
  · have apart : parent ≠ id := newest ▸ Nat.ne_of_lt parentInRange
    have other : child ≠ id := newest ▸ Nat.ne_of_lt childInRange
    simp [newest, newest ▸ apart, newest ▸ other]
  · simp [newest]

theorem adopt_addEdge (node : Node) (id above target : Nat) :
    adopt (addEdge node field target) id above = addEdge (adopt node id above) field target := by
  unfold adopt
  split <;> split <;> simp_all [addEdge]

/-- Edges with other ends are added in any order. -/
theorem attach_attach {otherParent otherChild : Nat} (parents : parent ≠ otherParent)
    (children : child ≠ otherChild) (otherField : Option String) :
    (arena.attach parent field child).attach otherParent otherField otherChild =
      (arena.attach otherParent otherField otherChild).attach parent field child := by
  refine eq_of_nodes rfl fun id => ?_
  simp only [node?_attach, Option.map_map]
  congr 1
  funext node
  simp only [Function.comp_apply]
  by_cases isParent : parent = id
  · have otherAbove : otherParent ≠ id := fun same => parents (isParent.trans same.symm)
    by_cases isChild : child = id
    · have otherBelow : otherChild ≠ id := fun same => children (isChild.trans same.symm)
      simp [isParent, isChild, otherAbove, otherBelow]
    · by_cases isOther : otherChild = id <;>
        simp [isParent, isChild, otherAbove, isOther, adopt_addEdge]
  · by_cases isChild : child = id
    · have otherBelow : otherChild ≠ id := fun same => children (isChild.trans same.symm)
      by_cases isOther : otherParent = id <;>
        simp [isParent, isChild, otherBelow, isOther, adopt_addEdge]
    · simp [isParent, isChild]

mutual

/-- An edge between nodes that are there may wait until a tree has been added. -/
theorem attach_addTree (arena : Arena) {parent child : Nat} (field : Option String)
    (parentInRange : parent < arena.size) (childInRange : child < arena.size) :
    (tree : ParseTree) →
      (arena.attach parent field child).addTree tree =
        (arena.addTree tree).attach parent field child
  | .node label children => by
    rw [addTree, addTree, sizeAttach, attach_pushLabel arena field parentInRange childInRange]
    refine attach_addChildren (arena.pushLabel label) field ?_ ?_ (Nat.ne_of_lt parentInRange)
      children
    · rw [sizePushLabel]
      exact Nat.lt_succ_of_lt parentInRange
    · rw [sizePushLabel]
      exact Nat.lt_succ_of_lt childInRange

theorem attach_addChildren (arena : Arena) {parent child : Nat} (field : Option String)
    (parentInRange : parent < arena.size) (childInRange : child < arena.size) {other : Nat}
    (apart : parent ≠ other) :
    (children : List (Option String × ParseTree)) →
      (arena.attach parent field child).addChildren other children =
        (arena.addChildren other children).attach parent field child
  | [] => by rw [addChildren, addChildren]
  | (otherField, tree) :: rest => by
    have grown : arena.size ≤ (arena.addTree tree).size := by
      rw [sizeAddTree]
      exact Nat.le_add_right _ _
    rw [addChildren, addChildren, sizeAttach,
      attach_addTree arena field parentInRange childInRange tree,
      attach_attach _ field apart (Nat.ne_of_lt childInRange)]
    refine attach_addChildren _ field ?_ ?_ apart rest
    · rw [sizeAttach]
      exact parentInRange.trans_le grown
    · rw [sizeAttach]
      exact childInRange.trans_le grown

end

end Arena

namespace TreeCursor

variable {Place : Type}

/-- A cursor moves correctly. Where it stands at a spot, it sees the node there, and its moves lead
where they lead from the spot. -/
structure Tracks (cursor : TreeCursor Place) (stands : Place → Spot → Prop) : Prop where
  label {place : Place} {spot : Spot} (here : stands place spot) :
    cursor.label place = spot.tree.label
  field {place : Place} {spot : Spot} (here : stands place spot) :
    cursor.field? place = spot.field?
  firstChild {place : Place} {spot : Spot} (here : stands place spot) :
    Option.Rel stands (cursor.firstChild? place) spot.firstChild?
  nextSibling {place : Place} {spot : Spot} (here : stands place spot) :
    Option.Rel stands (cursor.nextSibling? place) spot.nextSibling?
  parent {place : Place} {spot : Spot} (here : stands place spot) :
    Option.Rel stands (cursor.parent? place) spot.parent?

/-- The cursor over trees that are given as a whole moves correctly. -/
theorem tracks_cursor : Spot.cursor.Tracks Eq where
  label here := here ▸ rfl
  field here := here ▸ rfl
  firstChild here := here ▸ rel_eq_refl _
  nextSibling here := here ▸ rel_eq_refl _
  parent here := here ▸ rel_eq_refl _

theorem eq_nil_of_firstOf? {spot : Spot} {trees : List (Option String × ParseTree)}
    (nothing : spot.firstOf? trees = none) : trees = [] := by
  cases trees with
  | nil => rfl
  | cons _ _ => cases nothing

/-- What a copy does behind a node when everything below it has been copied. -/
def proceed (cursor : TreeCursor Place) (arena : Arena) (parents : List Nat) (place : Place) :
    Option Arena :=
  match cursor.nextBehind? parents place with
  | some (next, left) => cursor.copyBelow arena left next
  | none => some arena

variable {cursor : TreeCursor Place} {stands : Place → Spot → Prop} {place : Place} {spot : Spot}
  {field : Option String} {tree : ParseTree} {behind : List (Option String × ParseTree)}

/-- Behind the last child of a node a copy goes on behind the node. -/
theorem proceed_last (tracks : cursor.Tracks stands) (arena : Arena) (parent : Nat)
    (outer : List Nat) (here : stands place (.child spot field tree [])) :
    ∃ above, stands above spot ∧ cursor.proceed arena (parent :: outer) place =
      if outer = [] then some arena else cursor.proceed arena outer above := by
  have last : cursor.nextSibling? place = none := eq_none_of_rel_none (tracks.nextSibling here)
  obtain ⟨above, up, there⟩ := exists_of_rel_some (tracks.parent here)
  refine ⟨above, there, ?_⟩
  simp only [proceed, nextBehind?, last, up]
  by_cases outermost : outer = []
  · simp only [if_pos outermost]
  · simp only [if_neg outermost]

/-- Behind any other child it goes on with the next one. -/
theorem proceed_next (tracks : cursor.Tracks stands) (arena : Arena) (parent : Nat)
    (outer : List Nat) {next : Spot} (follows : spot.firstOf? behind = some next)
    (here : stands place (.child spot field tree behind)) :
    ∃ there, stands there next ∧
      cursor.proceed arena (parent :: outer) place =
        cursor.copyBelow arena (parent :: outer) there := by
  have moves := tracks.nextSibling here
  rw [Spot.nextSibling?, follows] at moves
  obtain ⟨there, moved, stood⟩ := exists_of_rel_some moves
  exact ⟨there, stood, by simp only [proceed, nextBehind?, moved]⟩

mutual

/-- A copy adds the tree at a place below the innermost parent, and goes on behind it. -/
theorem copyBelow_tree (tracks : cursor.Tracks stands) (arena : Arena) {parent : Nat}
    (outer : List Nat) (inRange : parent < arena.size) {place : Place} {spot : Spot}
    {field : Option String} {behind : List (Option String × ParseTree)} : (tree : ParseTree) →
      stands place (.child spot field tree behind) →
      ∃ there, stands there (.child spot field tree behind) ∧
        cursor.copyBelow arena (parent :: outer) place =
          cursor.proceed ((arena.addTree tree).attach parent field arena.size) (parent :: outer)
            there
  | .node label children, here => by
    have seen : cursor.label place = label := tracks.label here
    have under : cursor.field? place = field := tracks.field here
    have down := tracks.firstChild here
    have pushed : arena.size < (arena.pushLabel label).size := by simp
    have waits := Arena.attach_addChildren (arena.pushLabel label) field (inRange.trans pushed)
      pushed (Nat.ne_of_lt inRange) children
    rw [copyBelow, seen, under, Arena.addTree, ← waits]
    cases below : Spot.firstOf? (.child spot field (.node label children) behind) children with
    | none =>
      rw [Spot.firstChild?, Spot.tree, ParseTree.children, below] at down
      have leaf : cursor.firstChild? place = none := eq_none_of_rel_none down
      have bare : children = [] := eq_nil_of_firstOf? below
      refine ⟨place, here, ?_⟩
      simp only [leaf, bare, Arena.addChildren]
      rfl
    | some first =>
      rw [Spot.firstChild?, Spot.tree, ParseTree.children, below] at down
      obtain ⟨start, moved, stood⟩ := exists_of_rel_some down
      have attached :
          arena.size < ((arena.pushLabel label).attach parent field arena.size).size := by simp
      obtain ⟨there, again, copied⟩ :=
        copyBelow_children tracks _ (parent :: outer) attached children below stood
      exact ⟨there, again, by simpa [moved] using copied⟩

/-- A copy adds the tree at a place and those behind it, and goes on behind their parent. -/
theorem copyBelow_children (tracks : cursor.Tracks stands) (arena : Arena) {parent : Nat}
    (outer : List Nat) (inRange : parent < arena.size) {place : Place} {spot first : Spot} :
    (children : List (Option String × ParseTree)) → spot.firstOf? children = some first →
      stands place first →
      ∃ above, stands above spot ∧
        cursor.copyBelow arena (parent :: outer) place =
          if outer = [] then some (arena.addChildren parent children)
          else cursor.proceed (arena.addChildren parent children) outer above
  | (field, tree) :: rest, rfl, here => by
    obtain ⟨there, again, copied⟩ := copyBelow_tree tracks arena outer inRange tree here
    rw [copied, Arena.addChildren]
    cases follows : spot.firstOf? rest with
    | none =>
      have last : rest = [] := eq_nil_of_firstOf? follows
      subst last
      rw [Arena.addChildren]
      exact proceed_last tracks _ parent outer again
    | some next =>
      obtain ⟨behind, stood, goesOn⟩ := proceed_next tracks
        ((arena.addTree tree).attach parent field arena.size) parent outer follows again
      have grown : parent < ((arena.addTree tree).attach parent field arena.size).size := by
        rw [Arena.sizeAttach, Arena.sizeAddTree]
        exact Nat.lt_add_right _ inRange
      rw [goesOn]
      exact copyBelow_children tracks _ outer grown rest follows stood

end

/-- A copy through a cursor that moves correctly ends, and adds the tree. -/
theorem copyInto_eq_addTree (tracks : cursor.Tracks stands) (arena : Arena)
    (here : stands place (.root tree)) :
    cursor.copyInto arena place = some (arena.addTree tree) := by
  cases tree with
  | node label children =>
    have seen : cursor.label place = label := tracks.label here
    have down := tracks.firstChild here
    rw [Spot.firstChild?, Spot.tree, ParseTree.children] at down
    rw [copyInto, seen, Arena.addTree]
    cases below : Spot.firstOf? (.root (.node label children)) children with
    | none =>
      rw [below] at down
      have leaf : cursor.firstChild? place = none := eq_none_of_rel_none down
      have bare : children = [] := eq_nil_of_firstOf? below
      simp [leaf, bare, Arena.addChildren]
    | some first =>
      rw [below] at down
      obtain ⟨start, moved, stood⟩ := exists_of_rel_some down
      have pushed : arena.size < (arena.pushLabel label).size := by simp
      obtain ⟨_, _, copied⟩ := copyBelow_children tracks _ [] pushed children below stood
      simpa [moved] using copied

/-- A copy of a tree through a cursor that moves correctly over it ends. The arena is the one that
the tree is laid out in: it has one node for each node of the tree, with its label, its children,
their fields and its parent, in pre-order. So a walk counts through the nodes, and the way up from
each of them ends at the root. -/
theorem copy_depicts_tree (tracks : cursor.Tracks stands) (source : String) (tree : ParseTree)
    (here : stands place (.root tree)) :
    ∃ arena, cursor.copyInto (.empty source) place = some arena ∧
      arena = .ofTree source tree ∧ arena.characters = source.toList ∧
      arena.size = tree.size ∧ arena.Depicts tree ∧ arena.Rising ∧
      arena.walk 0 = List.range arena.size ∧
      ∀ id < arena.size, ∃ line, (∀ limit, id ≤ limit → arena.ancestors limit id = line) ∧
        (id :: line).IsChain (fun node above => arena.parent? node = some above ∧ above < node) ∧
        (id :: line).getLast? = some 0 := by
  have size := Arena.size_ofTree source tree
  have depicts := Arena.depicts_ofTree source tree
  have rising := Arena.rising_ofTree source tree
  refine ⟨_, copyInto_eq_addTree tracks (.empty source) here, rfl,
    Arena.characters_ofTree source tree, size, depicts, rising, ?_, fun id inRange => ?_⟩
  · exact (Arena.walk_ofTree source tree).trans (congrArg List.range size.symm)
  · exact Arena.ancestors_reach_root rising (fun _ => depicts.eq_zero_of_parent?) inRange

/-- Two statements. Behind the last argument in the first one a copy goes up by two levels, and
behind the statement to the root. -/
def calls : ParseTree :=
  .notion "program" 0 6 [
    (none, .notion "expression_statement" 0 5 [
      (none, .notion "call_expression" 0 4 [
        (some "function", .notion "identifier" 0 1 []),
        (some "arguments", .notion "arguments" 1 4 [
          (none, .token "(" 1),
          (none, .notion "identifier" 2 3 []),
          (none, .token ")" 3)])]),
      (none, .token ";" 4)]),
    (none, .notion "expression_statement" 5 6 [
      (none, .notion "identifier" 5 6 [])])]

theorem copy_depicts_tree_of_calls :
    ∃ arena, Spot.cursor.copyInto (.empty "a(b);c") (.root calls) = some arena ∧
      arena.walk 0 = List.range 11 ∧ arena.children 0 = [1, 9] ∧ arena.children 1 = [2, 8] ∧
      arena.fields 2 = [("function", 3), ("arguments", 4)] ∧
      arena.ancestors 7 7 = [4, 2, 1, 0] := by
  obtain ⟨arena, copied, rfl, _, size, _, _, walk, _⟩ :=
    copy_depicts_tree tracks_cursor "a(b);c" calls (rfl : Spot.root calls = .root calls)
  refine ⟨_, copied, ?_, by decide +kernel, by decide +kernel, by decide +kernel,
    by decide +kernel⟩
  rw [walk, size]
  rfl

end TreeCursor

end ExportIndex
