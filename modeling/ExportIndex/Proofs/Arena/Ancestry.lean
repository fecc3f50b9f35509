import ExportIndex.Arena.OfTree
import ExportIndex.Proofs.Arena.Construction
import Mathlib

/-
This file says what stands above a node. In a tree that is laid out parents come first, so that
the way up ends.
-/

namespace ExportIndex.Arena

/-- A node stands above another one: parents lead there. -/
def IsAncestor (arena : Arena) (ancestor id : Nat) : Prop :=
  Relation.TransGen (fun node parent => arena.parent? node = some parent) id ancestor

/-- Parents come before their children. -/
def Rising (arena : Arena) : Prop :=
  ∀ id, ∀ parent ∈ arena.parent? id, parent < id

theorem rising_pushLabel {arena : Arena} (rising : Rising arena) (label : Label) :
    Rising (arena.pushLabel label) := by
  intro id parent isParent
  rw [parent?_pushLabel] at isParent
  exact rising id parent isParent

theorem rising_attach {arena : Arena} (rising : Rising arena) {parent child : Nat}
    (before : parent < child) (field : Option String) :
    Rising (arena.attach parent field child) := by
  intro id other isParent
  rw [parent?, node?_attach] at isParent
  cases present : arena.node? id with
  | none =>
    rw [present] at isParent
    cases isParent
  | some node =>
    have old (isOld : node.parent = some other) : other < id :=
      rising id other (by rw [parent?, present]; exact isOld)
    have kept (changed : Node) : (addEdge changed field child).parent = changed.parent := rfl
    by_cases here : child = id
    · subst here
      have apart : parent ≠ child := Nat.ne_of_lt before
      rw [present] at isParent
      simp only [Option.map_some, if_true, if_neg apart, Option.bind_some, adopt] at isParent
      split at isParent
      · exact Option.some.inj isParent ▸ before
      · exact old isParent
    · rw [present] at isParent
      simp only [Option.map_some, if_neg here, Option.bind_some, Option.mem_def] at isParent
      split at isParent
      · exact old ((kept node).symm.trans isParent)
      · exact old isParent

mutual

theorem rising_addTree {arena : Arena} (rising : Rising arena) : (tree : ParseTree) →
    Rising (arena.addTree tree)
  | .node label children => by
    rw [addTree]
    exact rising_addChildren (rising_pushLabel rising label) (by simp) children

theorem rising_addChildren {arena : Arena} (rising : Rising arena) {parent : Nat}
    (inRange : parent < arena.size) : (children : List (Option String × ParseTree)) →
      Rising (arena.addChildren parent children)
  | [] => by
    rw [addChildren]
    exact rising
  | (field, child) :: rest => by
    rw [addChildren]
    refine rising_addChildren (rising_attach (rising_addTree rising child) inRange field) ?_ rest
    rw [sizeAttach, sizeAddTree]
    omega

end

theorem rising_ofTree (source : String) (tree : ParseTree) : Rising (ofTree source tree) :=
  rising_addTree (fun id parent isParent => by simp [parent?, node?, empty] at isParent) tree

/-- Where parents come first, as many steps as the number of a node reach all that is above it. -/
theorem mem_ancestors_iff {arena : Arena} (rising : Rising arena) {ancestor : Nat} {limit id : Nat}
    (enough : id ≤ limit) :
    ancestor ∈ arena.ancestors limit id ↔ arena.IsAncestor ancestor id := by
  induction limit generalizing id with
  | zero =>
    have root : id = 0 := Nat.le_zero.mp enough
    subst root
    rw [ancestors, IsAncestor, Relation.TransGen.head'_iff]
    refine ⟨fun member => (List.not_mem_nil member).elim, fun ⟨parent, isParent, _⟩ => ?_⟩
    exact absurd (rising 0 parent isParent) (Nat.not_lt_zero parent)
  | succ limit ih =>
    rw [ancestors, IsAncestor, Relation.TransGen.head'_iff]
    cases isParent : arena.parent? id with
    | none => simp
    | some parent =>
      have above := ih (Nat.le_of_lt_succ ((rising id parent isParent).trans_le enough))
      simp only [List.mem_cons, above, Option.some.injEq, exists_eq_left',
        Relation.reflTransGen_iff_eq_or_transGen]
      rfl

/-- Where parents come first and only one node has none, the way up from every node is finite and
leads there. -/
theorem ancestors_reach_root {arena : Arena} (rising : Rising arena)
    (rooted : ∀ id < arena.size, arena.parent? id = none → id = 0) {id : Nat}
    (inRange : id < arena.size) :
    ∃ line, (∀ limit, id ≤ limit → arena.ancestors limit id = line) ∧
      (id :: line).IsChain (fun node above => arena.parent? node = some above ∧ above < node) ∧
      (id :: line).getLast? = some 0 := by
  induction id using Nat.strong_induction_on with
  | _ id ih =>
    cases isParent : arena.parent? id with
    | none =>
      obtain rfl := rooted id inRange isParent
      refine ⟨[], fun limit _ => ?_, .singleton 0, rfl⟩
      cases limit with
      | zero => rfl
      | succ limit => rw [ancestors, isParent]
    | some parent =>
      have before : parent < id := rising id parent isParent
      obtain ⟨line, found, chain, last⟩ := ih parent before (before.trans inRange)
      refine ⟨parent :: line, fun limit enough => ?_, .cons_cons ⟨isParent, before⟩ chain, ?_⟩
      · obtain ⟨limit, rfl⟩ := Nat.exists_eq_add_one_of_ne_zero
          (Nat.ne_of_gt ((Nat.zero_le parent).trans_lt (before.trans_le enough)))
        rw [ancestors, isParent]
        exact congrArg _ (found limit (Nat.le_of_lt_succ (before.trans_le enough)))
      · rw [List.getLast?_cons_cons, last]

end ExportIndex.Arena
