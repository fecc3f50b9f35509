import ExportIndex.Arena.OfTree

/-
This file copies trees into arenas through cursors. A cursor stands at one node of a tree at a
time and moves to the first child, to the next sibling or to the parent of the node.
-/

namespace ExportIndex

/-- What is seen from the places where a cursor can stand, and where it moves from them. A move
that leads nowhere leaves the cursor where it is. -/
structure TreeCursor (Place : Type) where
  label : Place → Label
  /-- The field under which the node stands in its parent. -/
  field? : Place → Option String
  firstChild? : Place → Option Place
  nextSibling? : Place → Option Place
  parent? : Place → Option Place

namespace TreeCursor

variable {Place : Type} (cursor : TreeCursor Place)

/-- Moves up until there is a next sibling to move to. Of the parents, the innermost of which
comes first, those stay that the sibling stands below. -/
def nextBehind? : List Nat → Place → Option (Place × List Nat)
  | [], _ => none
  | parent :: outer, place =>
    match cursor.nextSibling? place with
    | some next => some (next, parent :: outer)
    | none =>
      match cursor.parent? place with
      | some above => if outer = [] then none else nextBehind? outer above
      | none => none

/-- Copies the node at a place below the innermost of its parents, then what is left of the tree
behind it. A copy of a tree without an end gives nothing. -/
def copyBelow (cursor : TreeCursor Place) (arena : Arena) (parents : List Nat) (place : Place) :
    Option Arena :=
  match parents with
  | [] => some arena
  | parent :: outer =>
    let id := arena.size
    let arena := (arena.pushLabel (cursor.label place)).attach parent (cursor.field? place) id
    match cursor.firstChild? place with
    | some child => cursor |>.copyBelow arena (id :: parent :: outer) child
    | none =>
      match cursor.nextBehind? (parent :: outer) place with
      | some (next, left) => cursor |>.copyBelow arena left next
      | none => some arena
partial_fixpoint

/-- Copies the tree at whose root a cursor stands. -/
def copyInto (arena : Arena) (start : Place) : Option Arena :=
  let root := arena.size
  let arena := arena.pushLabel (cursor.label start)
  match cursor.firstChild? start with
  | some child => cursor.copyBelow arena [root] child
  | none => some arena

end TreeCursor

/-- A place in a tree: its root, or a node below a place, with its field and the siblings behind
it. -/
inductive Spot where
  | root (tree : ParseTree)
  | child (parent : Spot) (field : Option String) (tree : ParseTree)
      (behind : List (Option String × ParseTree))

namespace Spot

def tree : Spot → ParseTree
  | root tree => tree
  | child _ _ tree _ => tree

def field? : Spot → Option String
  | root _ => none
  | child _ field _ _ => field

/-- The place of the first of the trees below a place. -/
def firstOf? (spot : Spot) : List (Option String × ParseTree) → Option Spot
  | [] => none
  | (field, first) :: behind => some (child spot field first behind)

def firstChild? (spot : Spot) : Option Spot := spot.firstOf? spot.tree.children

def nextSibling? : Spot → Option Spot
  | root _ => none
  | child parent _ _ behind => parent.firstOf? behind

def parent? : Spot → Option Spot
  | root _ => none
  | child parent _ _ _ => some parent

/-- The cursor over trees that are given as a whole. -/
def cursor : TreeCursor Spot where
  label spot := spot.tree.label
  field? := field?
  firstChild? := firstChild?
  nextSibling? := nextSibling?
  parent? := parent?

end Spot

end ExportIndex
