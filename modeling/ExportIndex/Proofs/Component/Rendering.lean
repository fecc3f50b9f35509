import ExportIndex.Component.Template
import ExportIndex.Proofs.Arena.Depth
import Mathlib

/-
This file says which nodes render an element: those from which rendering is passed on to one. Where
every way down ends, the search for an element ends, too. Statements that are added to blocks add
ways and take none away.
-/

namespace ExportIndex.Component

open Arena

variable {arena after : Arena} {id child : Nat}

/-- A node passes rendering on to another one. -/
inductive PassesOn (arena : Arena) (id : Nat) : Nat → Prop
  /-- Parentheses and `return` pass it on to what comes first in them. -/
  | first {child : Nat} (kind : arena.kind id ∈ ["parenthesized_expression", "return_statement"])
      (isFirst : (arena.namedChildren id).head? = some child) : PassesOn arena id child
  | statement {child : Nat} (kind : arena.kind id = "statement_block")
      (isStatement : child ∈ arena.namedChildren id) : PassesOn arena id child
  | alternative {name : String} {child : Nat} (kind : arena.kind id = "ternary_expression")
      (isBranch : name ∈ ["consequence", "alternative"])
      (leads : arena.field? id name = some child) : PassesOn arena id child
  /-- Of the operators those that need not look at both operands. -/
  | operand {operator : Nat} {name : String} {child : Nat}
      (kind : arena.kind id = "binary_expression")
      (isOperator : arena.field? id "operator" = some operator)
      (selects : arena.text operator ∈ ["&&", "||", "??"]) (isOperand : name ∈ ["left", "right"])
      (leads : arena.field? id name = some child) : PassesOn arena id child

/-- Rendering is passed on from a node to an element in finitely many steps. -/
def LeadsToElement (arena : Arena) (id : Nat) : Prop :=
  ∃ element, Relation.ReflTransGen (PassesOn arena) id element ∧
    arena.kind element ∈ elementKinds

/-- The search for an element comes to an answer. It looks at the branches of a node in turn, up to
the first one that renders. -/
inductive Settles (arena : Arena) : Nat → Bool → Prop
  | element {id : Nat} (kind : arena.kind id ∈ elementKinds) : Settles arena id true
  | found {id branch : Nat} {before behind : List Nat} (other : arena.kind id ∉ elementKinds)
      (split : branches arena id = before ++ branch :: behind)
      (passed : ∀ earlier ∈ before, Settles arena earlier false)
      (renders : Settles arena branch true) : Settles arena id true
  | exhausted {id : Nat} (other : arena.kind id ∉ elementKinds)
      (passed : ∀ branch ∈ branches arena id, Settles arena branch false) :
      Settles arena id false

/-- A tree gets further statements in its blocks. Each node of the tree has an image, which says
what the node says and has the edges that the node has, but between the statements of a block there
may be others. -/
structure Extends (arena after : Arena) (image : Nat → Nat) : Prop where
  kind : ∀ id < arena.size, after.kind (image id) = arena.kind id
  named : ∀ id < arena.size, after.isNamed (image id) = arena.isNamed id
  operator : ∀ id < arena.size, ∀ operator ∈ arena.field? id "operator",
    after.text (image operator) = arena.text operator
  block : ∀ id < arena.size, arena.kind id = "statement_block" →
    ((arena.children id).map image).Sublist (after.children (image id))
  children : ∀ id < arena.size, arena.kind id ≠ "statement_block" →
    after.children (image id) = (arena.children id).map image
  fields : ∀ id < arena.size, arena.kind id ≠ "statement_block" →
    after.fields (image id) = (arena.fields id).map fun edge => (edge.1, image edge.2)

theorem mem_branches_iff : child ∈ branches arena id ↔ PassesOn arena id child := by
  constructor
  · intro member
    unfold branches at member
    split at member
    · next kind => exact .first (by simp [kind]) (by simpa using member)
    · next kind => exact .first (by simp [kind]) (by simpa using member)
    · next kind => exact .statement kind member
    · next kind =>
      obtain ⟨name, isBranch, leads⟩ := List.mem_filterMap.mp member
      exact .alternative kind isBranch leads
    · next kind =>
      split at member
      · next selects =>
        obtain ⟨operator, isOperator, selects⟩ := Option.any_eq_true _ _ |>.mp selects
        obtain ⟨name, isOperand, leads⟩ := List.mem_filterMap.mp member
        exact .operand kind isOperator (by simpa using selects) isOperand leads
      · cases member
    · cases member
  · intro passes
    cases passes with
    | first kind isFirst =>
      simp only [List.mem_cons, List.not_mem_nil, or_false] at kind
      rcases kind with kind | kind <;> simp [branches, kind, isFirst]
    | statement kind isStatement => simpa [branches, kind] using isStatement
    | alternative kind isBranch leads =>
      rw [branches]
      simp only [kind]
      exact List.mem_filterMap.mpr ⟨_, isBranch, leads⟩
    | operand kind isOperator selects isOperand leads =>
      rw [branches]
      simp only [kind, isOperator, Option.any_some]
      rw [if_pos (by simpa using selects)]
      exact List.mem_filterMap.mpr ⟨_, isOperand, leads⟩

theorem PassesOn.isChild (linked : arena.Linked) (passes : PassesOn arena id child) :
    child ∈ arena.children id := by
  cases passes with
  | first _ isFirst => exact List.mem_of_mem_filter (List.mem_of_mem_head? isFirst)
  | statement _ isStatement => exact List.mem_of_mem_filter isStatement
  | alternative _ _ leads => exact linked.mem_children_of_field? leads
  | operand _ _ _ _ leads => exact linked.mem_children_of_field? leads

/-- The step of the search. -/
theorem rendersAt_succ_iff (depth : Nat) :
    rendersAt arena (depth + 1) id = true ↔ arena.kind id ∈ elementKinds ∨
      ∃ branch, PassesOn arena id branch ∧ rendersAt arena depth branch = true := by
  simp [rendersAt, mem_branches_iff]

theorem leadsToElement_of_rendersAt {depth : Nat} (renders : rendersAt arena depth id = true) :
    LeadsToElement arena id := by
  induction depth generalizing id with
  | zero => cases renders
  | succ depth ih =>
    rcases (rendersAt_succ_iff depth).mp renders with kind | ⟨branch, passes, renders⟩
    · exact ⟨id, .refl, kind⟩
    · obtain ⟨element, path, kind⟩ := ih renders
      exact ⟨element, .head passes path, kind⟩

/-- A search to a depth beyond the height of a node misses no element. -/
theorem rendersAt_of_leadsToElement (linked : arena.Linked) (founded : arena.Founded id)
    (leads : LeadsToElement arena id) {depth : Nat} (enough : arena.height id < depth) :
    rendersAt arena depth id = true := by
  obtain ⟨element, path, kind⟩ := leads
  induction path using Relation.ReflTransGen.head_induction_on generalizing depth with
  | refl =>
    obtain ⟨depth, rfl⟩ := Nat.exists_eq_succ_of_ne_zero (Nat.ne_zero_of_lt enough)
    exact (rendersAt_succ_iff depth).mpr (.inl kind)
  | head passes _ ih =>
    obtain ⟨depth, rfl⟩ := Nat.exists_eq_succ_of_ne_zero (Nat.ne_zero_of_lt enough)
    have isChild := passes.isChild linked
    have lower := founded.height_lt linked isChild
    exact (rendersAt_succ_iff depth).mpr
      (.inr ⟨_, passes, ih (founded.below isChild) (lower.trans_le (Nat.le_of_lt_succ enough))⟩)

theorem renders_iff (linked : arena.Linked) (founded : arena.Founded id) :
    renders arena id = true ↔ LeadsToElement arena id :=
  ⟨leadsToElement_of_rendersAt, fun leads =>
    rendersAt_of_leadsToElement linked founded leads (Nat.lt_succ_of_le (height_le_size linked id))⟩

theorem leadsToElement_iff : LeadsToElement arena id ↔ arena.kind id ∈ elementKinds ∨
    ∃ branch ∈ branches arena id, LeadsToElement arena branch := by
  constructor
  · rintro ⟨element, path, kind⟩
    rcases path.cases_head with rfl | ⟨branch, passes, path⟩
    · exact .inl kind
    · exact .inr ⟨branch, mem_branches_iff.mpr passes, element, path, kind⟩
  · rintro (kind | ⟨branch, member, element, path, kind⟩)
    · exact ⟨id, .refl, kind⟩
    · exact ⟨element, .head (mem_branches_iff.mp member) path, kind⟩

/-- What the search answers is right. -/
theorem Settles.answer_iff {answer : Bool} (settles : Settles arena id answer) :
    answer = true ↔ LeadsToElement arena id := by
  induction settles with
  | element kind => simp [leadsToElement_iff.mpr (.inl kind)]
  | found _ split _ _ _ renders =>
    have member := split ▸ List.mem_append_right _ List.mem_cons_self
    simp [leadsToElement_iff.mpr (.inr ⟨_, member, renders.mp rfl⟩)]
  | exhausted other _ passed =>
    rw [leadsToElement_iff]
    constructor
    · intro never
      cases never
    · rintro (kind | ⟨branch, member, leads⟩)
      · exact absurd kind other
      · exact (passed branch member).mpr leads

/-- Some branches are passed up to the first one that renders, or all of them are. -/
theorem split_at_first {settled : Nat → Bool → Prop} (ids : List Nat)
    (each : ∀ id ∈ ids, ∃ answer, settled id answer) :
    (∃ before branch behind, ids = before ++ branch :: behind ∧
      (∀ earlier ∈ before, settled earlier false) ∧ settled branch true) ∨
    ∀ id ∈ ids, settled id false := by
  induction ids with
  | nil => exact .inr (by simp)
  | cons id rest ih =>
    obtain ⟨answer, settles⟩ := each id List.mem_cons_self
    cases answer with
    | true => exact .inl ⟨[], id, rest, rfl, by simp, settles⟩
    | false =>
      rcases ih fun other member => each other (List.mem_cons_of_mem _ member) with
        ⟨before, branch, behind, rfl, passed, renders⟩ | passed
      · exact .inl ⟨id :: before, branch, behind, rfl,
          List.forall_mem_cons.mpr ⟨settles, passed⟩, renders⟩
      · exact .inr (List.forall_mem_cons.mpr ⟨settles, passed⟩)

/-- Where every way down ends, the search comes to an answer. -/
theorem exists_settles (linked : arena.Linked) (founded : arena.Founded id) :
    ∃ answer, Settles arena id answer := by
  induction founded with
  | intro id _ ih =>
    by_cases kind : arena.kind id ∈ elementKinds
    · exact ⟨true, .element kind⟩
    · have each (branch : Nat) (member : branch ∈ branches arena id) :=
        ih branch ((mem_branches_iff.mp member).isChild linked)
      rcases split_at_first _ each with ⟨before, branch, behind, split, passed, renders⟩ | passed
      · exact ⟨true, .found kind split passed renders⟩
      · exact ⟨false, .exhausted kind passed⟩

theorem settles_iff (linked : arena.Linked) (founded : arena.Founded id) (answer : Bool) :
    Settles arena id answer ↔ renders arena id = answer := by
  have right {other : Bool} (settles : Settles arena id other) : renders arena id = other :=
    Bool.eq_iff_iff.mpr ((renders_iff linked founded).trans settles.answer_iff.symm)
  refine ⟨right, ?_⟩
  rintro rfl
  obtain ⟨other, settles⟩ := exists_settles linked founded
  exact right settles ▸ settles

section Extension

variable {image : Nat → Nat}

theorem Extends.namedChildren_map (grows : Extends arena after image) (linked : arena.Linked)
    (id : Nat) : (arena.namedChildren id).map image =
      ((arena.children id).map image).filter after.isNamed := by
  rw [List.filter_map, Arena.namedChildren]
  congr 1
  refine List.filter_congr fun child isChild => ?_
  exact (grows.named child (linked.inRange id child isChild)).symm

theorem Extends.field?_eq (grows : Extends arena after image) {id : Nat}
    (inRange : id < arena.size) (other : arena.kind id ≠ "statement_block") (name : String) :
    after.field? (image id) name = (arena.field? id name).map image := by
  have edges (arena : Arena) (id : Nat) : arena.fieldAll id name =
      (arena.fields id).filterMap fun edge =>
        if edge.1 = name then some edge.2 else none := rfl
  rw [Arena.field?, Arena.field?, edges, edges, grows.fields id inRange other,
    List.filterMap_map, ← List.head?_map, List.map_filterMap]
  congr 2
  funext edge
  simp only [Function.comp_apply]
  split <;> rfl

/-- What a node passes rendering on to, its image passes it on to in the larger tree. -/
theorem PassesOn.carried (grows : Extends arena after image) (linked : arena.Linked)
    (passes : PassesOn arena id child) : PassesOn after (image id) (image child) := by
  have inRange := lt_size_of_mem_children (passes.isChild linked)
  have kind := grows.kind id inRange
  have named := grows.namedChildren_map linked id
  cases passes with
  | first isKind isFirst =>
    have other : arena.kind id ≠ "statement_block" := by
      intro isBlock
      simp [isBlock] at isKind
    refine .first (kind ▸ isKind) ?_
    rw [Arena.namedChildren, grows.children id inRange other, ← named, List.head?_map, isFirst]
    rfl
  | statement isBlock isStatement =>
    refine .statement (kind.trans isBlock) ?_
    have kept := (grows.block id inRange isBlock).filter after.isNamed
    exact kept.subset (named ▸ List.mem_map_of_mem isStatement)
  | alternative isTernary isBranch leads =>
    refine .alternative (kind.trans isTernary) isBranch ?_
    rw [grows.field?_eq inRange (by simp [isTernary]), leads, Option.map_some]
  | operand isBinary isOperator selects isOperand leads =>
    have other : arena.kind id ≠ "statement_block" := by simp [isBinary]
    have same := grows.operator id inRange _ isOperator
    refine .operand (kind.trans isBinary) ?_ (same.symm ▸ selects) isOperand ?_
    · rw [grows.field?_eq inRange other, isOperator, Option.map_some]
    · rw [grows.field?_eq inRange other, leads, Option.map_some]

theorem LeadsToElement.carried (grows : Extends arena after image) (linked : arena.Linked)
    (leads : LeadsToElement arena id) : LeadsToElement after (image id) := by
  obtain ⟨element, path, kind⟩ := leads
  have inRange : element < arena.size := by
    rw [← node?_isSome_iff]
    cases present : arena.node? element with
    | none => simp [Arena.kind, present, elementKinds] at kind
    | some node => rfl
  exact ⟨image element, path.lift image fun _ _ passes => passes.carried grows linked,
    grows.kind element inRange ▸ kind⟩

end Extension

/-- Where children come behind their parents, the search from a node comes to an answer, which is
whether rendering is passed on from it to an element. Further statements in blocks do not change an
answer that is positive. -/
theorem renders_follows_ways (constructed : arena.Constructed) (descending : arena.Descending)
    (id : Nat) :
    (∀ answer, Settles arena id answer ↔ renders arena id = answer) ∧
    (renders arena id = true ↔ LeadsToElement arena id) ∧
    ∀ after image, after.Constructed → after.Descending → Extends arena after image →
      renders arena id = true → renders after (image id) = true := by
  have linked := constructed.linked
  have founded := descending.founded linked id
  refine ⟨settles_iff linked founded, renders_iff linked founded, ?_⟩
  intro after image built ordered grows renders
  exact (renders_iff built.linked (ordered.founded built.linked _)).mpr
    (((renders_iff linked founded).mp renders).carried grows linked)

/-- The tree of a block that returns `a&&<i/>`, behind so many characters. -/
def returning (start : Nat) : ParseTree :=
  .notion "return_statement" start (start + 14) [
    (none, .token "return" start),
    (none, .notion "binary_expression" (start + 7) (start + 14) [
      (some "left", .notion "identifier" (start + 7) (start + 8) []),
      (some "operator", .token "&&" (start + 8)),
      (some "right", .notion "jsx_self_closing_element" (start + 10) (start + 14) [])])]

def shortBlock : Arena :=
  .ofTree "\x7breturn a&&<i/>\x7d" <| .notion "statement_block" 0 16 [
    (none, .token "\x7b" 0),
    (none, returning 1),
    (none, .token "\x7d" 15)]

/-- That block with another statement before `return`. -/
def longBlock : Arena :=
  .ofTree "\x7bx;return a&&<i/>\x7d" <| .notion "statement_block" 0 18 [
    (none, .token "\x7b" 0),
    (none, .notion "expression_statement" 1 3 [
      (none, .notion "identifier" 1 2 []),
      (none, .token ";" 2)]),
    (none, returning 3),
    (none, .token "\x7d" 17)]

/-- The first two nodes stay and the others move behind the new statement. -/
def moved (id : Nat) : Nat := if id < 2 then id else id + 3

theorem extends_longBlock : Extends shortBlock longBlock moved where
  kind := by decide +kernel
  named := by decide +kernel
  operator := by decide +kernel
  block := by decide +kernel
  children := by decide +kernel
  fields := by decide +kernel

/-- Both blocks render the element behind the operator. -/
theorem renders_follows_ways_of_blocks :
    shortBlock.Constructed ∧ shortBlock.Descending ∧ longBlock.Constructed ∧
      longBlock.Descending ∧ Settles shortBlock 0 true ∧ LeadsToElement shortBlock 0 ∧
      renders longBlock 0 = true := by
  have built : shortBlock.Constructed := constructed_ofTree _ _
  have ordered : shortBlock.Descending := descending_ofTree _ _
  have laterBuilt : longBlock.Constructed := constructed_ofTree _ _
  have laterOrdered : longBlock.Descending := descending_ofTree _ _
  obtain ⟨settles, leads, grows⟩ := renders_follows_ways built ordered 0
  have renders : renders shortBlock 0 = true := by decide +kernel
  exact ⟨built, ordered, laterBuilt, laterOrdered, (settles true).mpr renders, leads.mp renders,
    grows longBlock moved laterBuilt laterOrdered extends_longBlock renders⟩

end ExportIndex.Component
