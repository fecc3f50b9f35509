import ExportIndex.Arena.Walk
import ExportIndex.Proofs.Arena.Construction
import ExportIndex.Proofs.Arena.DepthFirst

/-
This file shows that the walk, which keeps a stack and also follows the edges under fields,
visits the nodes of a depth first search over the ordered children, in the same order.
-/

namespace ExportIndex.Arena

/-- The marks of a walk say which nodes have not been seen. -/
def Marks (arena : Arena) (visited : Array Bool) (seen : Finset Nat) : Prop :=
  ∀ id, visited[id]? = some false ↔ id < arena.size ∧ id ∉ seen

theorem marks_empty (arena : Arena) : Marks arena (Array.replicate arena.size false) ∅ := by
  intro id
  simp [Array.getElem?_replicate]

/-- A fresh node that is marked has been seen, and no other node changes. -/
theorem Marks.insert {arena : Arena} {visited : Array Bool} {seen : Finset Nat}
    (marks : Marks arena visited seen) (id : Nat) :
    Marks arena (visited.setIfInBounds id true) (insert id seen) := by
  intro node
  rw [Array.getElem?_setIfInBounds, Finset.mem_insert, not_or]
  by_cases same : id = node
  · subst same
    simp
  · rw [if_neg same, marks node]
    simp [Ne.symm same]

/-- The edges that lead down are those to the children, then those under fields. -/
theorem successors_eq (node : Node) :
    successors node =
      node.children ++ (node.fields.filter fun edge => edge.1 ≠ "parent").map Prod.snd := by
  have children : (node.children.map fun child => ("children", child)).filter
      (fun edge => edge.1 ≠ "parent") = node.children.map fun child => ("children", child) := by
    rw [List.filter_eq_self]
    simp
  have parents : (node.parent.map fun parent => ("parent", parent)).toList.filter
      (fun edge : String × Nat => edge.1 ≠ "parent") = [] := by
    cases node.parent <;> simp
  rw [successors, Node.edges, List.filter_append, List.filter_append, children, parents]
  simp [Function.comp_def]

/-- In a linked arena every edge that leads down leads to a child. -/
theorem successors_split {arena : Arena} (linked : Linked arena) (id : Nat) :
    ∃ doubles, (arena.node? id).elim [] successors = arena.children id ++ doubles ∧
      ∀ node ∈ doubles, node ∈ arena.children id := by
  cases present : arena.node? id with
  | none => exact ⟨[], by simp [children, present], by simp⟩
  | some node =>
    refine ⟨_, by rw [Option.elim_some, successors_eq, children, present, Option.elim_some], ?_⟩
    intro target member
    obtain ⟨edge, listed, rfl⟩ := List.mem_map.mp member
    have isField : edge ∈ arena.fields id := by
      simpa [fields, present] using (List.mem_filter.mp listed).1
    exact linked.doubled id edge isField

/-- A search from all edges of a node is a search from its children: when an edge under a field
is looked at, the child that it doubles has been seen. -/
theorem DepthFirst.of_successors {arena : Arena} {seen : Finset Nat} {id : Nat}
    {order : List Nat} (linked : Linked arena)
    (search : DepthFirst arena seen ((arena.node? id).elim [] successors) order) :
    DepthFirst arena seen (arena.children id) order := by
  obtain ⟨doubles, split, doubled⟩ := successors_split linked id
  rw [split] at search
  obtain ⟨before, behind, descend, extra, rfl⟩ := (DepthFirst.append_iff _ _).mp search
  have nothing : behind = [] := by
    apply extra.nil_of_idle
    intro node member
    have inRange := linked.inRange id node (doubled node member)
    rcases descend.covers node (doubled node member) inRange with old | new
    · exact .inl (Finset.mem_union_left _ old)
    · exact .inl (Finset.mem_union_right _ (List.mem_toFinset.mpr new))
  rw [nothing, List.append_nil]
  exact descend

/-- The stack of a walk holds the lists that the search has still to go through. -/
theorem walkFrom_depthFirst {arena : Arena} (linked : Linked arena) (visited : Array Bool)
    (stack : List Nat) (seen : Finset Nat) (marks : Marks arena visited seen) :
    DepthFirst arena seen stack (arena.walkFrom visited stack) := by
  induction visited, stack using walkFrom.induct arena generalizing seen with
  | case1 visited =>
    rw [walkFrom]
    exact .nil seen
  | case2 visited id rest fresh ih =>
    obtain ⟨inRange, new⟩ := (marks id).mp fresh
    rw [walkFrom, dif_pos fresh]
    have search := ih (insert id seen) (marks.insert id)
    obtain ⟨below, behind, descend, proceed, split⟩ := (DepthFirst.append_iff _ _).mp search
    rw [split]
    exact .visit inRange new (descend.of_successors linked) proceed
  | case3 visited id rest stale ih =>
    rw [walkFrom, dif_neg stale]
    refine .skip ?_ (ih seen marks)
    by_contra idle
    rw [not_or, Nat.not_le] at idle
    exact stale ((marks id).mpr ⟨idle.2, idle.1⟩)

/-- A walk is the depth first search from its start. -/
theorem walk_depthFirst {arena : Arena} (linked : Linked arena) (start : Nat) :
    DepthFirst arena ∅ [start] (arena.walk start) :=
  walkFrom_depthFirst linked _ _ ∅ (marks_empty arena)

/-- The search looks at nothing but the number of nodes and the ordered children. -/
theorem DepthFirst.congr {arena other : Arena} {seen : Finset Nat} {ids order : List Nat}
    (search : DepthFirst arena seen ids order) (sameSize : other.size = arena.size)
    (sameChildren : ∀ id, other.children id = arena.children id) :
    DepthFirst other seen ids order := by
  induction search with
  | nil seen => exact .nil seen
  | skip idle _ ih => exact .skip (sameSize ▸ idle) ih
  | visit inRange fresh _ _ below behind =>
    exact .visit (sameSize ▸ inRange) fresh (sameChildren _ ▸ below) behind

/-- Of every arena that is built from nothing, a walk visits the nodes of the depth first search
over ordered children in its order, each node that is reached over such children once and no other
node. Fields and parents have no say in it, and a start that is no node visits nothing. -/
theorem walk_visits_in_preorder {arena : Arena} (constructed : Constructed arena) (start : Nat) :
    (∀ order, DepthFirst arena ∅ [start] order ↔ order = arena.walk start) ∧
    (arena.walk start).Nodup ∧
    (∀ id, id ∈ arena.walk start ↔ start < arena.size ∧ arena.Reaches start id) ∧
    (∀ other, Constructed other → other.size = arena.size →
      (∀ id, other.children id = arena.children id) → other.walk start = arena.walk start) ∧
    (arena.size ≤ start → arena.walk start = []) := by
  have linked := constructed.linked
  have search := walk_depthFirst linked start
  refine ⟨fun order => ⟨fun found => found.unique search, fun same => same ▸ search⟩,
    search.nodup, search.mem_iff_reaches linked.inRange, ?_, ?_⟩
  · intro other built sameSize sameChildren
    exact (walk_depthFirst built.linked start).unique (search.congr sameSize sameChildren)
  · intro outside
    exact search.nil_of_idle fun id member => .inr (List.mem_singleton.mp member ▸ outside)

/-- Two nodes with an edge each to the other, the first of them twice and under a field that is
called like the edges to parents, and an edge of the second to itself. -/
def tangle : Arena :=
  (((((empty "").push "first" 0 0).push "second" 0 0).attach 0 (some "parent") 1).attach 1 none 0
    ).attach 0 none 1 |>.attach 1 (some "self") 1

theorem tangle_constructed : Constructed tangle :=
  .attach 1 (some "self") 1 (by decide) (by decide) <|
    .attach 0 none 1 (by decide) (by decide) <|
      .attach 1 none 0 (by decide) (by decide) <|
        .attach 0 (some "parent") 1 (by decide) (by decide) <|
          .pushLabel _ (.pushLabel _ (.empty ""))

/-- The walk of the tangle goes to the second node and back to nowhere. -/
theorem walk_visits_in_preorder_of_tangle :
    Constructed tangle ∧ tangle.walk 0 = [0, 1] ∧ tangle.walk 1 = [1, 0] ∧ tangle.walk 2 = [] := by
  have first : tangle.children 0 = [1, 1] := rfl
  have second : tangle.children 1 = [0, 1] := rfl
  refine ⟨tangle_constructed, ?_, ?_, ?_⟩
  · refine (((walk_visits_in_preorder tangle_constructed 0).1 [0, 1]).mp ?_).symm
    refine @DepthFirst.visit _ _ _ _ [1] [] (by decide) (by decide) ?_ (.nil _)
    rw [first]
    refine @DepthFirst.visit _ _ _ _ [] [] (by decide) (by decide) ?_
      (.skip (by decide) (.nil _))
    rw [second]
    exact .skip (by decide) (.skip (by decide) (.nil _))
  · refine (((walk_visits_in_preorder tangle_constructed 1).1 [1, 0]).mp ?_).symm
    refine @DepthFirst.visit _ _ _ _ [0] [] (by decide) (by decide) ?_ (.nil _)
    rw [second]
    refine @DepthFirst.visit _ _ _ _ [] [] (by decide) (by decide) ?_
      (.skip (by decide) (.nil _))
    rw [first]
    exact .skip (by decide) (.skip (by decide) (.nil _))
  · exact (walk_visits_in_preorder tangle_constructed 2).2.2.2.2 (by decide)

end ExportIndex.Arena
