import ExportIndex.Proofs.Arena.Address
import ExportIndex.Proofs.Arena.Content
import Mathlib

/-
This file says what it means that a module has the statements of other modules, one behind the
other, and relates its nodes to theirs.
-/

namespace ExportIndex

/-- A text, the label of the root over it, and the statements below the root. -/
structure Module where
  source : String
  root : Label
  statements : List (Option String × ParseTree)

namespace Module

def tree (part : Module) : ParseTree := .node part.root part.statements

def arena (part : Module) : Arena := .ofTree part.source part.tree

def contents (part : Module) : List (Option String × Content) :=
  ParseTree.contents part.source.toList part.statements

/-- Nothing in a module is in error or missing. -/
def ErrorFree (part : Module) : Prop :=
  ∀ label ∈ part.tree.labels, label.isError = false ∧ label.isMissing = false

theorem below (part : Module) :
    part.arena.Holds 1 (Arena.nodesAmong 1 0 part.statements) :=
  (Arena.shows_ofTree part.source part.tree).below

theorem characters_arena (part : Module) : part.arena.characters = part.source.toList :=
  Arena.characters_ofTree part.source part.tree

theorem kind_root (part : Module) : part.arena.kind 0 = part.root.kind :=
  (Arena.shows_ofTree part.source part.tree).kind_eq

theorem children_root (part : Module) :
    part.arena.children 0 = Arena.idsFrom 1 part.statements :=
  (Arena.shows_ofTree part.source part.tree).children_eq

/-- The numbers of the nodes below the root. -/
def inner (part : Module) : List Nat := List.range' 1 (ParseTree.sizeOfChildren part.statements)

theorem walk_root (part : Module) : part.arena.walk 0 = 0 :: part.inner := by
  rw [arena, Arena.walk_ofTree, List.range_eq_range', tree, ParseTree.size, List.range'_succ]
  rfl

end Module

/-- Roots of modules are of two kinds, as the grammars call them. -/
def IsRootKind (kind : String) : Prop := kind = "program" ∨ kind = "module"

/-- A module has the statements of some parts, one part behind the other, over a text of its own. -/
structure Joins (whole : Module) (parts : List Module) : Prop where
  contents : whole.contents = (parts.map Module.contents).flatten
  root : IsRootKind whole.root.kind
  roots : ∀ part ∈ parts, part.root.kind = whole.root.kind
  errorFree : (∀ part ∈ parts, part.ErrorFree) → whole.ErrorFree

namespace Arena

theorem nodesAmong_append (next parent : Nat) (first second : List (Option String × ParseTree)) :
    nodesAmong next parent (first ++ second) = nodesAmong next parent first ++
      nodesAmong (next + ParseTree.sizeOfChildren first) parent second := by
  induction first generalizing next with
  | nil => rfl
  | cons child rest ih =>
    obtain ⟨field, child⟩ := child
    rw [List.cons_append, nodesAmong, nodesAmong, ih, List.append_assoc,
      ParseTree.sizeOfChildren, Nat.add_assoc]

theorem idsFrom_append (next : Nat) (first second : List (Option String × ParseTree)) :
    idsFrom next (first ++ second) =
      idsFrom next first ++ idsFrom (next + ParseTree.sizeOfChildren first) second := by
  induction first generalizing next with
  | nil => rfl
  | cons child rest ih =>
    obtain ⟨field, child⟩ := child
    rw [List.cons_append, idsFrom, idsFrom, ih, List.cons_append, ParseTree.sizeOfChildren,
      Nat.add_assoc]

/-- Siblings of one content have the same places. -/
theorem samePlace_siblings {first second : Arena} {next twin above other : Nat}
    {children mates : List (Option String × ParseTree)}
    (parents : first.kind above = second.kind other)
    (holds : first.Holds next (nodesAmong next above children))
    (holdsMates : second.Holds twin (nodesAmong twin other mates))
    (same : ParseTree.contents first.characters children =
      ParseTree.contents second.characters mates) :
    List.Forall₂ (SamePlace first second) (idsFrom next children) (idsFrom twin mates) := by
  induction children generalizing next twin mates with
  | nil =>
    cases mates with
    | nil => exact .nil
    | cons => simp [ParseTree.contents] at same
  | cons child rest ih =>
    cases mates with
    | nil => simp [ParseTree.contents] at same
    | cons mate mates =>
      obtain ⟨field, child⟩ := child
      obtain ⟨name, mate⟩ := mate
      rw [ParseTree.contents, ParseTree.contents, List.cons.injEq, Prod.mk.injEq] at same
      rw [nodesAmong, holds_append, length_nodesFrom] at holds holdsMates
      have shown : first.Shows next (some above) child := holds.1
      have shownMate : second.Shows twin (some other) mate := holdsMates.1
      refine .cons ⟨⟨_, _, _, _, _, shown, shownMate, same.1.2, le_rfl⟩, ?_⟩
        (ih holds.2 holdsMates.2 same.2)
      rw [parent?, parent?, shown.node?_eq, shownMate.node?_eq]
      exact congrArg some parents

/-- The statements of some parts, one part behind the other, give what they give in the parts. Of a
statement either all nodes are asked or the first one alone. -/
theorem flatMap_parts {A : Type} {arena : Arena} {gather : Arena → Nat → List A} {above : Nat}
    (same : ∀ {second : Arena} {id twin : Nat}, SamePlace arena second id twin →
      gather arena id = gather second twin) (parts : List Module) :
    ∀ {next : Nat} {children : List (Option String × ParseTree)},
      arena.Holds next (nodesAmong next above children) →
      ParseTree.contents arena.characters children = (parts.map Module.contents).flatten →
      (∀ part ∈ parts, part.root.kind = arena.kind above) →
        (List.range' next (ParseTree.sizeOfChildren children)).flatMap (gather arena) =
            parts.flatMap (fun part => part.inner.flatMap (gather part.arena)) ∧
          (idsFrom next children).flatMap (gather arena) =
            parts.flatMap fun part => (part.arena.children 0).flatMap (gather part.arena) := by
  induction parts with
  | nil =>
    intro next children _ contents _
    obtain rfl : children = [] := by
      cases children with
      | nil => rfl
      | cons => simp [ParseTree.contents] at contents
    exact ⟨rfl, rfl⟩
  | cons part rest ih =>
    intro next children holds contents roots
    rw [ParseTree.contents_eq_map, List.map_cons, List.flatten_cons,
      List.map_eq_append_iff] at contents
    obtain ⟨here, behind, rfl, isPart, isRest⟩ := contents
    rw [← ParseTree.contents_eq_map] at isPart isRest
    rw [nodesAmong_append, holds_append, length_nodesAmong] at holds
    obtain ⟨innerBehind, idsBehind⟩ := ih holds.2 isRest fun other member =>
      roots other (List.mem_cons_of_mem _ member)
    have parents : arena.kind above = part.arena.kind 0 := by
      rw [part.kind_root, roots part List.mem_cons_self]
    have contents : ParseTree.contents arena.characters here =
        ParseTree.contents part.arena.characters part.statements := by
      rw [isPart, part.characters_arena]
      rfl
    have inner := samePlace_children parents here part.statements holds.1 part.below contents
    have ids := samePlace_siblings parents holds.1 part.below contents
    rw [ParseTree.sizeOfChildren_append, ← List.range'_append_1, idsFrom_append,
      List.flatMap_append, List.flatMap_append, List.flatMap_cons, List.flatMap_cons,
      innerBehind, idsBehind, flatMap_eq_of_forall₂ inner fun _ _ => same,
      flatMap_eq_of_forall₂ ids fun _ _ => same, part.children_root]
    exact ⟨rfl, rfl⟩

end Arena

namespace Joins

variable {A : Type} {whole : Module} {parts : List Module} (joins : Joins whole parts)
  {gather : Arena → Nat → List A}
  (same : ∀ {first second : Arena} {id twin : Nat}, Arena.SamePlace first second id twin →
    gather first id = gather second twin)

include joins same

/-- What all nodes below the root give, and what the statements alone give. -/
theorem flatMap_below :
    whole.inner.flatMap (gather whole.arena) =
        parts.flatMap (fun part => part.inner.flatMap (gather part.arena)) ∧
      (whole.arena.children 0).flatMap (gather whole.arena) =
        parts.flatMap fun part => (part.arena.children 0).flatMap (gather part.arena) := by
  rw [whole.children_root]
  refine Arena.flatMap_parts (fun place => same place) parts whole.below ?_ ?_
  · rw [whole.characters_arena]
    exact joins.contents
  · intro part member
    rw [whole.kind_root, joins.roots part member]

/-- What a walk gives, if roots give nothing. -/
theorem flatMap_walk
    (silent : ∀ {arena : Arena}, IsRootKind (arena.kind 0) → gather arena 0 = []) :
    (whole.arena.walk 0).flatMap (gather whole.arena) =
      parts.flatMap fun part => (part.arena.walk 0).flatMap (gather part.arena) := by
  have isRoot : IsRootKind (whole.arena.kind 0) := whole.kind_root ▸ joins.root
  rw [whole.walk_root, List.flatMap_cons, silent isRoot, List.nil_append,
    (joins.flatMap_below same).1]
  refine List.flatMap_congr fun part member => ?_
  have isRoot : IsRootKind (part.arena.kind 0) := by
    rw [part.kind_root, joins.roots part member]
    exact joins.root
  rw [part.walk_root, List.flatMap_cons, silent isRoot, List.nil_append]

end Joins

/-- How many bytes some characters take. -/
def bytes (characters : List Char) : Nat := (characters.map Char.utf8Size).sum

namespace Arena

theorem dropBytes_append_right (before behind : List Char) (count : Nat) :
    dropBytes (count + bytes before) (before ++ behind) = dropBytes count behind := by
  induction before generalizing count with
  | nil => rfl
  | cons character rest ih =>
    have positive := character.utf8Size_pos
    obtain ⟨more, total⟩ : ∃ more, count + bytes (character :: rest) = more + 1 :=
      ⟨count + bytes (character :: rest) - 1, by simp [bytes]; omega⟩
    have whole : more + 1 = count + bytes rest + character.utf8Size := by
      rw [← total, bytes, List.map_cons, List.sum_cons, ← bytes]
      omega
    rw [total, List.cons_append, dropBytes, if_pos (by omega), ← ih count]
    congr 1
    omega

/-- A place further on in a longer text is that place in the rest of the text. -/
theorem slice?_append_right (before behind : List Char) (start stop : Nat) :
    slice? (before ++ behind) (start + bytes before) (stop + bytes before) =
      slice? behind start stop := by
  rw [slice?, slice?, dropBytes_append_right, Nat.add_sub_add_right]
  simp only [Nat.add_le_add_iff_right]

theorem dropBytes_append_left {before rest : List Char} {count : Nat} (behind : List Char)
    (dropped : dropBytes count before = some rest) :
    dropBytes count (before ++ behind) = some (rest ++ behind) := by
  induction before generalizing count with
  | nil =>
    cases count with
    | zero =>
      obtain rfl : [] = rest := by simpa [dropBytes] using dropped
      simp [dropBytes]
    | succ count => simp [dropBytes] at dropped
  | cons character tail ih =>
    cases count with
    | zero =>
      obtain rfl : character :: tail = rest := by simpa [dropBytes] using dropped
      simp [dropBytes]
    | succ count =>
      rw [dropBytes] at dropped
      rw [List.cons_append, dropBytes]
      split at dropped
      · next fits => rw [if_pos fits, ih dropped]
      · cases dropped

theorem takeBytes_append_left {before text : List Char} {count : Nat} (behind : List Char)
    (taken : takeBytes count before = some text) :
    takeBytes count (before ++ behind) = some text := by
  induction before generalizing count text with
  | nil =>
    cases count with
    | zero => simpa [takeBytes] using taken
    | succ count => simp [takeBytes] at taken
  | cons character tail ih =>
    cases count with
    | zero => simpa [takeBytes] using taken
    | succ count =>
      rw [takeBytes] at taken
      rw [List.cons_append, takeBytes]
      split at taken
      · next fits =>
        obtain ⟨inner, isInner, rfl⟩ := Option.map_eq_some_iff.mp taken
        rw [if_pos fits, ih isInner, Option.map_some]
      · cases taken

/-- A place in a text is that place in a longer one. -/
theorem slice?_append_left {before text : List Char} {start stop : Nat} (behind : List Char)
    (covered : slice? before start stop = some text) :
    slice? (before ++ behind) start stop = some text := by
  unfold slice? at covered ⊢
  split at covered
  · next ordered =>
    obtain ⟨rest, dropped, taken⟩ := Option.bind_eq_some_iff.mp covered
    rw [if_pos ordered, dropBytes_append_left behind dropped, Option.bind_some,
      takeBytes_append_left behind taken]
  · cases covered

end Arena

namespace ParseTree

mutual

/-- A tree that stands so many bytes and lines further on. -/
def shift (offset rows : Nat) : ParseTree → ParseTree
  | node label children =>
    node { label with
      start := label.start + offset
      stop := label.stop + offset
      row := label.row + rows } (shiftAll offset rows children)

def shiftAll (offset rows : Nat) :
    List (Option String × ParseTree) → List (Option String × ParseTree)
  | [] => []
  | (field, child) :: rest => (field, child.shift offset rows) :: shiftAll offset rows rest

end

section Shift

variable {before : List Char} (behind : List Char)

mutual

theorem content_shift (rows : Nat) : (tree : ParseTree) →
    (tree.shift (bytes before) rows).content (before ++ behind) = tree.content behind
  | node label children => by
    rw [shift, content, Arena.slice?_append_right, contents_shiftAll, content]

theorem contents_shiftAll (rows : Nat) : (children : List (Option String × ParseTree)) →
    contents (before ++ behind) (shiftAll (bytes before) rows children) = contents behind children
  | [] => rfl
  | (field, child) :: rest => by
    rw [shiftAll, contents, content_shift, contents_shiftAll, contents]

end

mutual

/-- A tree that lies in a text keeps its content when the text goes on. -/
theorem content_append : (tree : ParseTree) →
    (∀ label ∈ tree.labels, (Arena.slice? before label.start label.stop).isSome) →
      tree.content (before ++ behind) = tree.content before
  | node label children, inText => by
    rw [labels, List.forall_mem_cons] at inText
    obtain ⟨text, covered⟩ := Option.isSome_iff_exists.mp inText.1
    rw [content, Arena.slice?_append_left behind covered, contents_append children inText.2,
      content, covered]

theorem contents_append : (children : List (Option String × ParseTree)) →
    (∀ label ∈ labelsAmong children, (Arena.slice? before label.start label.stop).isSome) →
      contents (before ++ behind) children = contents before children
  | [], _ => rfl
  | (field, child) :: rest, inText => by
    rw [labelsAmong, List.forall_mem_append] at inText
    rw [contents, content_append child inText.1, contents_append rest inText.2, contents]

end

end Shift

mutual

theorem labels_shift (offset rows : Nat) : (tree : ParseTree) →
    (tree.shift offset rows).labels = tree.labels.map fun label =>
      { label with
        start := label.start + offset
        stop := label.stop + offset
        row := label.row + rows }
  | node label children => by rw [shift, labels, labelsAmong_shiftAll, labels, List.map_cons]

theorem labelsAmong_shiftAll (offset rows : Nat) : (children : List (Option String × ParseTree)) →
    labelsAmong (shiftAll offset rows children) = (labelsAmong children).map fun label =>
      { label with
        start := label.start + offset
        stop := label.stop + offset
        row := label.row + rows }
  | [] => rfl
  | (_, child) :: rest => by
    rw [shiftAll, labelsAmong, labels_shift, labelsAmong_shiftAll, labelsAmong, List.map_append]

end

theorem labelsAmong_append (first second : List (Option String × ParseTree)) :
    labelsAmong (first ++ second) = labelsAmong first ++ labelsAmong second := by
  induction first with
  | nil => rfl
  | cons child rest ih =>
    obtain ⟨field, child⟩ := child
    rw [List.cons_append, labelsAmong, labelsAmong, ih, List.append_assoc]

end ParseTree

namespace Module

/-- The second text behind the first one, which ends its last line, and the statements of both. -/
def append (first second : Module) : Module where
  source := first.source ++ second.source
  root := { first.root with stop := first.root.stop + bytes second.source.toList }
  statements := first.statements ++ ParseTree.shiftAll (bytes first.source.toList)
    (first.source.toList.count '\n') second.statements

end Module

namespace Joins

theorem single {part : Module} (root : IsRootKind part.root.kind) : Joins part [part] where
  contents := by simp
  root := root
  roots := by simp
  errorFree free := free part List.mem_cons_self

/-- A module that is put behind others joins them. -/
theorem append {whole last : Module} {parts : List Module} (joins : Joins whole parts)
    (roots : last.root.kind = whole.root.kind)
    (inText : ∀ label ∈ ParseTree.labelsAmong whole.statements,
      (Arena.slice? whole.source.toList label.start label.stop).isSome) :
    Joins (whole.append last) (parts ++ [last]) where
  contents := by
    have before := ParseTree.contents_append last.source.toList whole.statements inText
    have behind : ParseTree.contents (whole.source.toList ++ last.source.toList)
        (ParseTree.shiftAll (bytes whole.source.toList) (whole.source.toList.count '\n')
          last.statements) = ParseTree.contents last.source.toList last.statements :=
      ParseTree.contents_shiftAll last.source.toList _ last.statements
    have known : ParseTree.contents whole.source.toList whole.statements =
        (parts.map Module.contents).flatten := joins.contents
    rw [Module.contents, Module.append, String.toList_append, ParseTree.contents_eq_map,
      List.map_append, ← ParseTree.contents_eq_map, ← ParseTree.contents_eq_map, before, behind,
      known]
    simp [Module.contents]
  root := joins.root
  roots := by
    intro part member
    rcases List.mem_append.mp member with earlier | isLast
    · exact joins.roots part earlier
    · rw [List.mem_singleton.mp isLast]
      exact roots
  errorFree := by
    intro free
    have wholeFree := joins.errorFree fun part member => free part (List.mem_append_left _ member)
    have lastFree := free last (List.mem_append_right _ List.mem_cons_self)
    unfold Module.ErrorFree Module.tree at wholeFree lastFree ⊢
    rw [ParseTree.labels, List.forall_mem_cons] at wholeFree lastFree ⊢
    refine ⟨wholeFree.1, ?_⟩
    rw [Module.append, ParseTree.labelsAmong_append, ParseTree.labelsAmong_shiftAll,
      List.forall_mem_append]
    refine ⟨wholeFree.2, fun label member => ?_⟩
    obtain ⟨own, listed, rfl⟩ := List.mem_map.mp member
    exact lastFree.2 own listed

end Joins

end ExportIndex
