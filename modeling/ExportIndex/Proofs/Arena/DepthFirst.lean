import ExportIndex.Arena
import Mathlib.Data.Finset.Basic
import Mathlib.Data.List.Basic
import Mathlib.Logic.Relation
import Mathlib.Tactic

/-
This file defines depth first search over the ordered children of an arena as a recursion
in pre-order. The search has no stack of its own; it skips the nodes that it has seen.
-/

namespace ExportIndex.Arena

/-- The search from the nodes of a list visits the nodes of `order`. It leaves out what is in
`seen` and what is no node, and what lies below a node is visited before the rest of the list. -/
inductive DepthFirst (arena : Arena) : Finset Nat → List Nat → List Nat → Prop
  | nil (seen : Finset Nat) : DepthFirst arena seen [] []
  | skip {seen : Finset Nat} {id : Nat} {rest order : List Nat}
      (idle : id ∈ seen ∨ arena.size ≤ id) (proceed : DepthFirst arena seen rest order) :
      DepthFirst arena seen (id :: rest) order
  | visit {seen : Finset Nat} {id : Nat} {rest below behind : List Nat}
      (inRange : id < arena.size) (fresh : id ∉ seen)
      (descend : DepthFirst arena (insert id seen) (arena.children id) below)
      (proceed : DepthFirst arena (insert id seen ∪ below.toFinset) rest behind) :
      DepthFirst arena seen (id :: rest) (id :: below ++ behind)

/-- A node is reached over ordered children alone. -/
def Reaches (arena : Arena) : Nat → Nat → Prop :=
  Relation.ReflTransGen fun parent child => child ∈ arena.children parent

namespace DepthFirst

variable {arena : Arena} {seen : Finset Nat} {ids order : List Nat}

/-- The search has one result. -/
theorem unique (first : DepthFirst arena seen ids order) {other : List Nat}
    (second : DepthFirst arena seen ids other) : order = other := by
  induction first generalizing other with
  | nil => cases second; rfl
  | skip idle _ ih =>
    cases second with
    | skip _ proceed => exact ih proceed
    | visit inRange fresh => exact absurd idle (by simp [fresh, inRange])
  | visit inRange fresh _ _ below behind =>
    cases second with
    | skip idle => exact absurd idle (by simp [fresh, inRange])
    | visit _ _ descend proceed =>
      cases below descend
      rw [behind proceed]

/-- After the visit of a node, what lies below it and behind it has been seen in turn. -/
theorem seen_after_visit (seen : Finset Nat) (id : Nat) (below behind : List Nat) :
    seen ∪ (id :: below ++ behind).toFinset =
      insert id seen ∪ below.toFinset ∪ behind.toFinset := by
  ext node
  simp only [List.cons_append, List.toFinset_cons, List.toFinset_append, Finset.mem_union,
    Finset.mem_insert, List.mem_toFinset]
  tauto

/-- The search takes the parts of a list one after the other. -/
theorem append_iff (first second : List Nat) :
    DepthFirst arena seen (first ++ second) order ↔
      ∃ before behind, DepthFirst arena seen first before ∧
        DepthFirst arena (seen ∪ before.toFinset) second behind ∧ order = before ++ behind := by
  induction first generalizing seen order with
  | nil =>
    constructor
    · intro search
      exact ⟨[], order, .nil seen, by simpa using search, rfl⟩
    · rintro ⟨before, behind, here, there, rfl⟩
      cases here
      simpa using there
  | cons id rest ih =>
    constructor
    · intro search
      cases search with
      | skip idle proceed =>
        obtain ⟨before, behind, here, there, same⟩ := ih.mp proceed
        exact ⟨before, behind, .skip idle here, there, same⟩
      | @visit _ _ _ below _ inRange fresh descend proceed =>
        obtain ⟨before, behind, here, there, same⟩ := ih.mp proceed
        refine ⟨id :: below ++ before, behind, .visit inRange fresh descend here, ?_,
          by simp [same]⟩
        exact (seen_after_visit seen id below before) ▸ there
    · rintro ⟨before, behind, here, there, rfl⟩
      cases here with
      | skip idle proceed => exact .skip idle (ih.mpr ⟨before, behind, proceed, there, rfl⟩)
      | @visit _ _ _ below after inRange fresh descend proceed =>
        rw [List.append_assoc]
        refine .visit inRange fresh descend (ih.mpr ⟨after, behind, proceed, ?_, rfl⟩)
        exact (seen_after_visit seen id below after) ▸ there

/-- Nodes that are seen already add nothing. -/
theorem nil_of_idle (search : DepthFirst arena seen ids order)
    (idle : ∀ id ∈ ids, id ∈ seen ∨ arena.size ≤ id) : order = [] := by
  induction search with
  | nil => rfl
  | skip _ _ ih => exact ih fun id member => idle id (List.mem_cons_of_mem _ member)
  | @visit seen id _ _ _ inRange fresh _ _ _ _ =>
    exact absurd (idle id List.mem_cons_self) (by simp [fresh, inRange])

/-- Each node of the list is visited unless it was seen before. -/
theorem covers (search : DepthFirst arena seen ids order) :
    ∀ id ∈ ids, id < arena.size → id ∈ seen ∨ id ∈ order := by
  induction search with
  | nil => simp
  | @skip seen id rest order idle _ ih =>
    intro node member inRange
    rcases List.mem_cons.mp member with rfl | later
    · exact .inl (idle.resolve_right (Nat.not_le_of_lt inRange))
    · exact ih node later inRange
  | @visit seen id rest below behind _ _ _ _ _ ih =>
    intro node member inRange
    rcases List.mem_cons.mp member with rfl | later
    · exact .inr List.mem_cons_self
    · have found := ih node later inRange
      simp only [Finset.mem_union, Finset.mem_insert, List.mem_toFinset] at found
      simp only [List.cons_append, List.mem_cons, List.mem_append]
      tauto

/-- A node that is visited was not seen before. -/
theorem fresh_of_mem (search : DepthFirst arena seen ids order) :
    ∀ id ∈ order, id < arena.size ∧ id ∉ seen := by
  induction search with
  | nil => simp
  | skip _ _ ih => exact ih
  | @visit seen id rest below behind inRange fresh _ _ belowFresh behindFresh =>
    intro node member
    rcases List.mem_append.mp member with near | far
    · rcases List.mem_cons.mp near with rfl | under
      · exact ⟨inRange, fresh⟩
      · obtain ⟨present, new⟩ := belowFresh node under
        exact ⟨present, fun old => new (Finset.mem_insert_of_mem old)⟩
    · obtain ⟨present, new⟩ := behindFresh node far
      exact ⟨present, fun old => new (Finset.mem_union_left _ (Finset.mem_insert_of_mem old))⟩

/-- No node is visited twice. -/
theorem nodup (search : DepthFirst arena seen ids order) : order.Nodup := by
  induction search with
  | nil => exact List.nodup_nil
  | skip _ _ ih => exact ih
  | @visit seen id rest below behind _ _ descend proceed belowDistinct behindDistinct =>
    have head : id ∉ below := fun member =>
      (descend.fresh_of_mem id member).2 (Finset.mem_insert_self id seen)
    have apart : ∀ node ∈ id :: below, node ∉ behind := by
      intro node near far
      apply (proceed.fresh_of_mem node far).2
      rcases List.mem_cons.mp near with rfl | under
      · exact Finset.mem_union_left _ (Finset.mem_insert_self _ _)
      · exact Finset.mem_union_right _ (List.mem_toFinset.mpr under)
    exact (List.nodup_cons.mpr ⟨head, belowDistinct⟩).append behindDistinct
      fun node near far => apart node near far

/-- What is visited is reached from the list. -/
theorem reached (search : DepthFirst arena seen ids order) :
    ∀ node ∈ order, ∃ id ∈ ids, arena.Reaches id node := by
  induction search with
  | nil => simp
  | skip _ _ ih =>
    intro node member
    obtain ⟨id, listed, path⟩ := ih node member
    exact ⟨id, List.mem_cons_of_mem _ listed, path⟩
  | @visit seen id rest below behind _ _ _ _ belowReached behindReached =>
    intro node member
    rcases List.mem_append.mp member with near | far
    · rcases List.mem_cons.mp near with rfl | under
      · exact ⟨node, List.mem_cons_self, .refl⟩
      · obtain ⟨child, isChild, path⟩ := belowReached node under
        exact ⟨id, List.mem_cons_self, .head isChild path⟩
    · obtain ⟨other, listed, path⟩ := behindReached node far
      exact ⟨other, List.mem_cons_of_mem _ listed, path⟩

/-- The search leaves no child of a visited node out. -/
theorem closed (search : DepthFirst arena seen ids order)
    (inRange : ∀ id, ∀ child ∈ arena.children id, child < arena.size) :
    ∀ node ∈ order, ∀ child ∈ arena.children node, child ∈ seen ∨ child ∈ order := by
  induction search with
  | nil => simp
  | skip _ _ ih => exact ih
  | @visit seen id rest below behind _ _ descend _ belowClosed behindClosed =>
    intro node member child isChild
    simp only [List.cons_append, List.mem_cons, List.mem_append]
    have above : child ∈ insert id seen ∨ child ∈ below →
        child ∈ seen ∨ child = id ∨ child ∈ below ∨ child ∈ behind := by
      rw [Finset.mem_insert]
      tauto
    rcases List.mem_append.mp member with near | far
    · rcases List.mem_cons.mp near with rfl | under
      · exact above (descend.covers child isChild (inRange node child isChild))
      · exact above (belowClosed node under child isChild)
    · have found := behindClosed node far child isChild
      simp only [Finset.mem_union, Finset.mem_insert, List.mem_toFinset] at found
      tauto

/-- A search from one node that has seen nothing visits what this node reaches. -/
theorem mem_iff_reaches {start : Nat} (search : DepthFirst arena ∅ [start] order)
    (inRange : ∀ id, ∀ child ∈ arena.children id, child < arena.size) (node : Nat) :
    node ∈ order ↔ start < arena.size ∧ arena.Reaches start node := by
  constructor
  · intro member
    obtain ⟨id, listed, path⟩ := search.reached node member
    obtain rfl := List.mem_singleton.mp listed
    refine ⟨?_, path⟩
    by_contra outside
    have empty := search.nil_of_idle fun other listed =>
      .inr (List.mem_singleton.mp listed ▸ Nat.le_of_not_lt outside)
    exact List.not_mem_nil (empty ▸ member)
  · rintro ⟨startInRange, path⟩
    have first : start ∈ order :=
      (search.covers start (List.mem_singleton_self start) startInRange).resolve_left
        (Finset.notMem_empty start)
    induction path with
    | refl => exact first
    | tail _ isChild ih =>
      exact (search.closed inRange _ ih _ isChild).resolve_left (Finset.notMem_empty _)

end DepthFirst

end ExportIndex.Arena
