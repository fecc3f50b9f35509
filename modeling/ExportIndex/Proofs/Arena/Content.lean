import ExportIndex.Proofs.Arena.Address
import ExportIndex.Proofs.Related
import Mathlib

/-
This file tells the content of a tree from its place. Trees of one content may stand in different
arenas, under other numbers and over other parts of a text; their nodes are alike.
-/

namespace ExportIndex

/-- What a tree says apart from where it stands. -/
inductive Content where
  | node (kind : String) (named : Bool) (text : String) (children : List (Option String × Content))

mutual

def Content.decEq : (first second : Content) → Decidable (first = second)
  | .node kind named text children, .node otherKind otherNamed otherText others =>
    have := Content.decEqAmong children others
    decidable_of_iff
      (kind = otherKind ∧ named = otherNamed ∧ text = otherText ∧ children = others)
      (Content.node.injEq _ _ _ _ _ _ _ _ ▸ Iff.rfl)

def Content.decEqAmong :
    (first second : List (Option String × Content)) → Decidable (first = second)
  | [], [] => .isTrue rfl
  | [], _ :: _ => .isFalse nofun
  | _ :: _, [] => .isFalse nofun
  | (field, child) :: rest, (otherField, other) :: others =>
    have := Content.decEq child other
    have := Content.decEqAmong rest others
    decidable_of_iff ((field = otherField ∧ child = other) ∧ rest = others)
      (by rw [List.cons.injEq, Prod.mk.injEq])

end

instance : DecidableEq Content := Content.decEq

mutual

def Content.size : Content → Nat
  | .node _ _ _ children => Content.sizeOfChildren children + 1

def Content.sizeOfChildren : List (Option String × Content) → Nat
  | [] => 0
  | (_, child) :: rest => child.size + Content.sizeOfChildren rest

end

namespace ParseTree

mutual

/-- The content of a tree over some characters. -/
def content (characters : List Char) : ParseTree → Content
  | node label children =>
    .node label.kind label.named
      (String.ofList ((Arena.slice? characters label.start label.stop).getD []))
      (contents characters children)

def contents (characters : List Char) :
    List (Option String × ParseTree) → List (Option String × Content)
  | [] => []
  | (field, child) :: rest => (field, child.content characters) :: contents characters rest

end

theorem contents_eq_map (characters : List Char) (children : List (Option String × ParseTree)) :
    contents characters children =
      children.map fun child => (child.1, child.2.content characters) := by
  induction children with
  | nil => rw [contents, List.map_nil]
  | cons child rest ih =>
    obtain ⟨field, child⟩ := child
    rw [contents, ih, List.map_cons]

mutual

theorem size_content (characters : List Char) : (tree : ParseTree) →
    (tree.content characters).size = tree.size
  | node label children => by
    rw [content, Content.size, sizeOfChildren_contents, size]

theorem sizeOfChildren_contents (characters : List Char) :
    (children : List (Option String × ParseTree)) →
      Content.sizeOfChildren (contents characters children) = sizeOfChildren children
  | [] => by rw [contents, Content.sizeOfChildren, sizeOfChildren]
  | (_, child) :: rest => by
    rw [contents, Content.sizeOfChildren, sizeOfChildren, size_content, sizeOfChildren_contents]

end

section SameContent

variable {characters others : List Char} {tree twin : ParseTree}

/-- Trees of one content agree in their kind, in whether they are named, in their text and in the
contents of their children. -/
theorem content_eq_iff :
    tree.content characters = twin.content others ↔
      tree.label.kind = twin.label.kind ∧ tree.label.named = twin.label.named ∧
        String.ofList ((Arena.slice? characters tree.label.start tree.label.stop).getD []) =
          String.ofList ((Arena.slice? others twin.label.start twin.label.stop).getD []) ∧
        contents characters tree.children = contents others twin.children := by
  cases tree
  cases twin
  rw [content, content, Content.node.injEq]
  rfl

theorem size_eq_of_content (same : tree.content characters = twin.content others) :
    tree.size = twin.size := by
  rw [← size_content characters, same, size_content]

theorem children_of_content (same : tree.content characters = twin.content others) :
    (tree.children.map Prod.snd).map (content characters) =
      (twin.children.map Prod.snd).map (content others) := by
  have below := (content_eq_iff.mp same).2.2.2
  rw [contents_eq_map, contents_eq_map] at below
  simpa [Function.comp_def] using congrArg (List.map Prod.snd) below

theorem field?_of_content (same : tree.content characters = twin.content others) (name : String) :
    (tree.field? name).map (content characters) = (twin.field? name).map (content others) := by
  have below := (content_eq_iff.mp same).2.2.2
  rw [contents_eq_map, contents_eq_map] at below
  have found := congrArg
    (fun children => (children.find? fun child => child.1 == some name).map Prod.snd) below
  simpa [field?, List.find?_map, Function.comp_def] using found

end SameContent

end ParseTree

namespace Arena

/-- Nodes of two arenas are alike if they show trees of one content, of at most so many nodes. -/
def Alike (first second : Arena) (bound id twin : Nat) : Prop :=
  ∃ parent other tree mate, first.Shows id parent tree ∧ second.Shows twin other mate ∧
    tree.content first.characters = mate.content second.characters ∧ tree.size ≤ bound

namespace Alike

variable {first second : Arena} {bound id twin : Nat}

theorem mono {larger : Nat} (alike : Alike first second bound id twin)
    (within : bound ≤ larger) : Alike first second larger id twin := by
  obtain ⟨parent, other, tree, mate, shown, shownMate, same, size⟩ := alike
  exact ⟨parent, other, tree, mate, shown, shownMate, same, size.trans within⟩

theorem succ (alike : Alike first second bound id twin) :
    Alike first second (bound + 1) id twin :=
  alike.mono (Nat.le_succ bound)

theorem kind_eq (alike : Alike first second bound id twin) :
    first.kind id = second.kind twin := by
  obtain ⟨_, _, tree, mate, shown, shownMate, same, _⟩ := alike
  rw [shown.kind_eq, shownMate.kind_eq, (ParseTree.content_eq_iff.mp same).1]

theorem isNamed_eq (alike : Alike first second bound id twin) :
    first.isNamed id = second.isNamed twin := by
  obtain ⟨_, _, tree, mate, shown, shownMate, same, _⟩ := alike
  rw [shown.isNamed_eq, shownMate.isNamed_eq, (ParseTree.content_eq_iff.mp same).2.1]

theorem text_eq (alike : Alike first second bound id twin) :
    first.text id = second.text twin := by
  obtain ⟨_, _, tree, mate, shown, shownMate, same, _⟩ := alike
  rw [text, text, shown.node?_eq, shownMate.node?_eq]
  exact (ParseTree.content_eq_iff.mp same).2.2.1

/-- Nodes that are alike are so with the least bound, which both arenas keep. -/
theorem within (alike : Alike first second bound id twin) :
    ∃ size, Alike first second size id twin ∧ size ≤ first.size ∧ size ≤ second.size := by
  obtain ⟨parent, other, tree, mate, shown, shownMate, same, _⟩ := alike
  refine ⟨tree.size, ⟨parent, other, tree, mate, shown, shownMate, same, le_rfl⟩, ?_, ?_⟩
  · have := shown.size_le
    omega
  · have := shownMate.size_le
    rw [← ParseTree.size_eq_of_content same] at this
    omega

theorem bound_pos (alike : Alike first second bound id twin) : 0 < bound := by
  obtain ⟨_, _, tree, _, _, _, _, size⟩ := alike
  exact tree.size_pos.trans_le size

/-- The children of nodes that are alike are alike one by one. -/
theorem children (alike : Alike first second (bound + 1) id twin) :
    List.Forall₂ (Alike first second bound) (first.children id) (second.children twin) := by
  obtain ⟨_, _, tree, mate, shown, shownMate, same, size⟩ := alike
  have siblings : List.Forall₂ (fun child sibling => first.Shows child (some id) sibling)
      (first.children id) (tree.children.map Prod.snd) :=
    List.forall₂_map_right_iff.mpr shown.siblings
  have mates : List.Forall₂ (fun child sibling => second.Shows child (some twin) sibling)
      (second.children twin) (mate.children.map Prod.snd) :=
    List.forall₂_map_right_iff.mpr shownMate.siblings
  refine (forall₂_of_map_eq siblings mates (ParseTree.children_of_content same)).imp
    fun child sibling => ?_
  rintro ⟨below, member, mateBelow, _, here, there, sameBelow⟩
  have smaller := ParseTree.size_lt_of_child member
  exact ⟨_, _, below, mateBelow, here, there, sameBelow, by omega⟩

theorem namedChildren (alike : Alike first second (bound + 1) id twin) :
    List.Forall₂ (Alike first second bound) (first.namedChildren id)
      (second.namedChildren twin) := by
  refine List.rel_filter (fun child sibling related => ?_) alike.children
  simp only [related.isNamed_eq]

theorem childOfKind? (alike : Alike first second (bound + 1) id twin) (kind : String) :
    Option.Rel (Alike first second bound) (first.childOfKind? id kind)
      (second.childOfKind? twin kind) :=
  rel_find? alike.children fun _ _ related => by rw [related.kind_eq]

theorem field? (alike : Alike first second (bound + 1) id twin) (name : String) :
    Option.Rel (Alike first second bound) (first.field? id name) (second.field? twin name) := by
  obtain ⟨_, _, tree, mate, shown, shownMate, same, size⟩ := alike
  have here := shown.field? name
  have there := shownMate.field? name
  have found := ParseTree.field?_of_content same name
  cases isField : tree.field? name with
  | none =>
    rw [isField] at here found
    rw [Option.map_eq_none_iff.mp found.symm] at there
    rw [eq_none_of_rel_none here, eq_none_of_rel_none there]
    exact .none
  | some below =>
    rw [isField] at here found
    obtain ⟨mateBelow, isMateField, sameBelow⟩ := Option.map_eq_some_iff.mp found.symm
    rw [isMateField] at there
    obtain ⟨child, isChild, shownChild⟩ := exists_of_rel_some here
    obtain ⟨sibling, isSibling, shownSibling⟩ := exists_of_rel_some there
    have smaller := ParseTree.size_lt_of_field? isField
    rw [isChild, isSibling]
    exact .some ⟨_, _, below, mateBelow, shownChild, shownSibling, sameBelow.symm, by omega⟩

/-- What goes down two trees step by step agrees on nodes that are alike, as no tree exceeds the
arena in which it stands. -/
theorem descend_size {motive : Nat → Nat → Nat → Nat → Prop}
    (alike : Alike first second bound id twin)
    (step : ∀ {bound id twin} depth limit, Alike first second (bound + 1) id twin →
      (∀ {child other}, Alike first second bound child other → motive depth limit child other) →
        motive (depth + 1) (limit + 1) id twin) :
    motive (first.size + 1) (second.size + 1) id twin := by
  obtain ⟨size, alike, inFirst, inSecond⟩ := alike.within
  exact descend_of_related (Alike first second) bound_pos step alike (Nat.le_succ_of_le inFirst)
    (Nat.le_succ_of_le inSecond)

end Alike

/-- Nodes of two arenas have the same place if they are alike and stand below nodes of one kind,
or below none. -/
def SamePlace (first second : Arena) (id twin : Nat) : Prop :=
  (∃ bound, Alike first second bound id twin) ∧
    (first.parent? id).map first.kind = (second.parent? twin).map second.kind

theorem SamePlace.below_eq {first second : Arena} {id twin : Nat}
    (same : SamePlace first second id twin) (kind : String) :
    ((first.parent? id).any fun parent => first.kind parent == kind) =
      (second.parent? twin).any fun parent => second.kind parent == kind := by
  have above := congrArg (Option.any (· == kind)) same.2
  rwa [Option.any_map, Option.any_map] at above

mutual

/-- The nodes of trees of one content have the same places one by one, if the roots have. -/
theorem samePlace_tree {first second : Arena} {id twin : Nat} {parent other : Option Nat}
    (above : parent.map first.kind = other.map second.kind) : (tree mate : ParseTree) →
    first.Shows id parent tree → second.Shows twin other mate →
    tree.content first.characters = mate.content second.characters →
      List.Forall₂ (SamePlace first second) (List.range' id tree.size)
        (List.range' twin mate.size)
  | .node label children, .node mateLabel mates, shown, shownMate, same => by
    have root : Alike first second (ParseTree.node label children).size id twin :=
      ⟨_, _, _, _, shown, shownMate, same, le_rfl⟩
    have below := samePlace_children root.kind_eq children mates shown.below shownMate.below
      (ParseTree.content_eq_iff.mp same).2.2.2
    rw [ParseTree.size, ParseTree.size, List.range'_succ, List.range'_succ]
    refine .cons ⟨⟨_, root⟩, ?_⟩ below
    rw [parent?, parent?, shown.node?_eq, shownMate.node?_eq]
    exact above

theorem samePlace_children {first second : Arena} {next twin above other : Nat}
    (parents : first.kind above = second.kind other) :
    (children mates : List (Option String × ParseTree)) →
    first.Holds next (nodesAmong next above children) →
    second.Holds twin (nodesAmong twin other mates) →
    ParseTree.contents first.characters children = ParseTree.contents second.characters mates →
      List.Forall₂ (SamePlace first second)
        (List.range' next (ParseTree.sizeOfChildren children))
        (List.range' twin (ParseTree.sizeOfChildren mates))
  | [], [], _, _, _ => .nil
  | [], _ :: _, _, _, same | _ :: _, [], _, _, same => by
    simp [ParseTree.contents] at same
  | (field, child) :: rest, (name, mate) :: mates, holds, holdsMates, same => by
    rw [ParseTree.contents, ParseTree.contents, List.cons.injEq, Prod.mk.injEq] at same
    rw [nodesAmong, holds_append, length_nodesFrom] at holds holdsMates
    have roots : (some above).map first.kind = (some other).map second.kind :=
      congrArg some parents
    have here := samePlace_tree roots child mate holds.1 holdsMates.1 same.1.2
    have there := samePlace_children parents rest mates holds.2 holdsMates.2 same.2
    rw [ParseTree.sizeOfChildren, ParseTree.sizeOfChildren, ← List.range'_append_1,
      ← List.range'_append_1]
    exact List.rel_append here there

end

/-- Sibling trees, the first of which has the number `next`, and the numbers of their nodes. -/
def blocks (next : Nat) : List (Option String × ParseTree) → List (ParseTree × List Nat)
  | [] => []
  | (_, child) :: rest =>
    (child, List.range' next child.size) :: blocks (next + child.size) rest

theorem map_fst_blocks (next : Nat) (children : List (Option String × ParseTree)) :
    (blocks next children).map Prod.fst = children.map Prod.snd := by
  induction children generalizing next with
  | nil => rfl
  | cons child rest ih =>
    obtain ⟨field, child⟩ := child
    rw [blocks, List.map_cons, List.map_cons, ih]

theorem flatMap_blocks {A : Type} (gather : Nat → List A) (next : Nat)
    (children : List (Option String × ParseTree)) :
    (List.range' next (ParseTree.sizeOfChildren children)).flatMap gather =
      (blocks next children).flatMap fun block => block.2.flatMap gather := by
  induction children generalizing next with
  | nil => rfl
  | cons child rest ih =>
    obtain ⟨field, child⟩ := child
    rw [ParseTree.sizeOfChildren, ← List.range'_append_1, List.flatMap_append, ih, blocks,
      List.flatMap_cons]

theorem shows_blocks {arena : Arena} {next parent : Nat}
    {children : List (Option String × ParseTree)}
    (holds : arena.Holds next (nodesAmong next parent children)) :
    ∀ block ∈ blocks next children, ∃ id, block.2 = List.range' id block.1.size ∧
      arena.Shows id (some parent) block.1 := by
  induction children generalizing next with
  | nil => exact fun _ member => absurd member List.not_mem_nil
  | cons child rest ih =>
    obtain ⟨field, child⟩ := child
    rw [nodesAmong, holds_append, length_nodesFrom] at holds
    intro block member
    rcases List.mem_cons.mp member with rfl | behind
    · exact ⟨next, rfl, holds.1⟩
    · exact ih holds.2 block behind

/-- What is gathered from sibling trees does not change when those move that give nothing, as long
as the others keep their order. -/
theorem flatMap_rearranged {A : Type} {first second : Arena} {next twin above other : Nat}
    {children mates : List (Option String × ParseTree)} {gather collect : Nat → List A}
    (keep : ParseTree → Bool) (parents : first.kind above = second.kind other)
    (holds : first.Holds next (nodesAmong next above children))
    (holdsMates : second.Holds twin (nodesAmong twin other mates))
    (same : ∀ id mate, SamePlace first second id mate → gather id = collect mate)
    (silent : ∀ id tree, first.Shows id (some above) tree → keep tree = false →
      (List.range' id tree.size).flatMap gather = [])
    (silentMates : ∀ id tree, second.Shows id (some other) tree → keep tree = false →
      (List.range' id tree.size).flatMap collect = [])
    (rearranged :
      ((children.map Prod.snd).filter keep).map (ParseTree.content first.characters) =
        ((mates.map Prod.snd).filter keep).map (ParseTree.content second.characters)) :
    (List.range' next (ParseTree.sizeOfChildren children)).flatMap gather =
      (List.range' twin (ParseTree.sizeOfChildren mates)).flatMap collect := by
  rw [flatMap_blocks, flatMap_blocks,
    flatMap_eq_flatMap_filter (fun block => keep block.1) _ (blocks next children),
    flatMap_eq_flatMap_filter (fun block => keep block.1) _ (blocks twin mates)]
  · rw [← map_fst_blocks next, ← map_fst_blocks twin, List.filter_map, List.filter_map,
      List.map_map, List.map_map] at rearranged
    refine flatMap_eq_of_map_eq rearranged fun block member mate mateMember content => ?_
    obtain ⟨id, numbers, shown⟩ := shows_blocks holds block (List.mem_of_mem_filter member)
    obtain ⟨place, mateNumbers, shownMate⟩ :=
      shows_blocks holdsMates mate (List.mem_of_mem_filter mateMember)
    have roots : (some above).map first.kind = (some other).map second.kind :=
      congrArg some parents
    rw [numbers, mateNumbers]
    exact flatMap_eq_of_forall₂ (samePlace_tree roots _ _ shown shownMate content) same
  · intro block member drop
    obtain ⟨id, numbers, shown⟩ := shows_blocks holdsMates block member
    rw [numbers]
    exact silentMates id block.1 shown drop
  · intro block member drop
    obtain ⟨id, numbers, shown⟩ := shows_blocks holds block member
    rw [numbers]
    exact silent id block.1 shown drop

end Arena

end ExportIndex
