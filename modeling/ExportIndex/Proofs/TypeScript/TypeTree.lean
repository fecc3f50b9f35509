import ExportIndex.Proofs.TypeScript.Grouping
import ExportIndex.Script.Type
import ExportIndex.Text.Blank
import Mathlib

/-
This file defines types as trees and gives the text of a node that depicts a tree.
-/

namespace ExportIndex.TypeScript

open Arena Script

/-- What puts the members of a group together. -/
inductive Connective where
  | union
  | intersection
deriving DecidableEq

namespace Connective

def kind : Connective → String
  | union => "union_type"
  | intersection => "intersection_type"

def separator : Connective → String
  | union => " | "
  | intersection => " & "

theorem mem_groupings (connective : Connective) :
    (connective.kind, connective.separator) ∈ groupings := by
  cases connective <;> decide

end Connective

/-- A type as it is written, with its parentheses. -/
inductive TypeTree where
  | predefined (name : String)
  | identifier (name : String)
  | generic (name : String) (arguments : List TypeTree)
  | array (element : TypeTree)
  | group (connective : Connective) (members : List TypeTree)
  | tuple (members : List TypeTree)
  | parenthesized (inner : TypeTree)

/-- The characters that stand between names. -/
def delimiters : List Char := ['<', '>', '[', ']', ',', '|', '&']

/-- A name as types have them. -/
structure IsName (name : String) : Prop where
  notEmpty : name.toList ≠ []
  solid : ∀ character ∈ name.toList, Text.isBlank character = false ∧ character ∉ delimiters

/-- A predefined name in letters of any case. One of them has two words. -/
inductive IsPredefined (name : String) : Prop
  | word (known : Text.lowerCase name ∈ predefinedNames)
  | uniqueSymbol {blanks : List Char} (notEmpty : blanks ≠ [])
      (blank : ∀ character ∈ blanks, Text.isBlank character = true)
      (known : (Text.lowerCase name).toList = "unique".toList ++ blanks ++ "symbol".toList)

/-- The text of a type that is one name. -/
inductive IsTypeWord (text : String) : Prop
  | predefined {name : String} (known : IsPredefined name) (same : Text.lowerCase name = text)
  | identifier (isName : IsName text) (other : text ∉ predefinedNames)

namespace TypeTree

/-- Groups have members, and names are such that the kinds of types can be told apart. -/
inductive Proper : TypeTree → Prop
  | predefined {name : String} (known : IsPredefined name) : Proper (.predefined name)
  | identifier {name : String} (isName : IsName name) (other : name ∉ predefinedNames) :
      Proper (.identifier name)
  | generic {name : String} {arguments : List TypeTree} (isName : IsName name)
      (notEmpty : arguments ≠ []) (each : ∀ argument ∈ arguments, Proper argument) :
      Proper (.generic name arguments)
  | array {element : TypeTree} (proper : Proper element) : Proper (.array element)
  | group {connective : Connective} {members : List TypeTree} (notEmpty : members ≠ [])
      (each : ∀ member ∈ members, Proper member) : Proper (.group connective members)
  | tuple {members : List TypeTree} (each : ∀ member ∈ members, Proper member) :
      Proper (.tuple members)
  | parenthesized {inner : TypeTree} (proper : Proper inner) : Proper (.parenthesized inner)

/-- The text of a type without its parentheses. -/
def text : TypeTree → String
  | predefined name => Text.lowerCase name
  | identifier name => name
  | generic name arguments => name ++ "<" ++ ", ".intercalate (arguments.map text) ++ ">"
  | array element => element.text ++ "[]"
  | group connective members => connective.separator.intercalate (members.map text)
  | tuple members => "[" ++ ", ".intercalate (members.map text) ++ "]"
  | parenthesized inner => inner.text

end TypeTree

/-- A node stands for a tree. -/
inductive Depicts (arena : Arena) : TypeTree → Nat → Prop
  | predefined {id : Nat} (kind : arena.kind id = "predefined_type") :
      Depicts arena (.predefined (arena.text id)) id
  | identifier {id : Nat} (kind : arena.kind id = "type_identifier") :
      Depicts arena (.identifier (arena.text id)) id
  | generic {id name list : Nat} {arguments : List TypeTree} (kind : arena.kind id = "generic_type")
      (named : arena.field? id "name" = some name)
      (listed : arena.field? id "type_arguments" = some list)
      (each : List.Forall₂ (Depicts arena) arguments (arena.namedChildren list)) :
      Depicts arena (.generic (arena.text name) arguments) id
  | array {id first : Nat} {element : TypeTree} (kind : arena.kind id = "array_type")
      (isFirst : (arena.namedChildren id).head? = some first)
      (depicts : Depicts arena element first) : Depicts arena (.array element) id
  | group {id : Nat} {connective : Connective} {members : List TypeTree}
      (kind : arena.kind id = connective.kind)
      (each : List.Forall₂ (Depicts arena) members (arena.namedChildren id)) :
      Depicts arena (.group connective members) id
  | tuple {id : Nat} {members : List TypeTree} (kind : arena.kind id = "tuple_type")
      (each : List.Forall₂ (Depicts arena) members (arena.namedChildren id)) :
      Depicts arena (.tuple members) id
  | parenthesized {id first : Nat} {inner : TypeTree} (kind : arena.kind id = "parenthesized_type")
      (isFirst : (arena.namedChildren id).head? = some first)
      (depicts : Depicts arena inner first) : Depicts arena (.parenthesized inner) id

section Resolution

variable {arena : Arena} {id inner name list : Nat} {tree : TypeTree}

theorem resolve_predefined (kind : arena.kind id = "predefined_type") :
    resolve arena id = Text.lowerCase (arena.text id) := by
  rw [resolve, resolveAt]
  simp only [kind]

theorem resolve_identifier (kind : arena.kind id = "type_identifier") :
    resolve arena id = arena.text id := by
  rw [resolve, resolveAt]
  simp only [kind]

variable (linked : arena.Linked) (founded : arena.Founded id)
include linked founded

/-- A node has its text already at a depth that is a little less. -/
theorem resolveAt_child {child depth : Nat} (isChild : child ∈ arena.children id)
    (enough : 3 * arena.size ≤ depth) : resolveAt arena depth child = resolve arena child :=
  resolveAt_eq linked (founded.below isChild)
    ((founded.height_lt linked isChild).trans_le (height_le_size linked id)) (Nat.le_succ _) enough

theorem resolve_array (kind : arena.kind id = "array_type")
    (isFirst : (arena.namedChildren id).head? = some inner) :
    resolve arena id = resolve arena inner ++ "[]" := by
  have isChild := List.mem_of_mem_filter (List.mem_of_mem_head? isFirst)
  have same := resolveAt_child linked founded isChild (Nat.le_add_right (3 * arena.size) 2)
  rw [resolve, resolveAt]
  simp only [kind, firstNamed?, isFirst, same]

theorem resolve_generic (kind : arena.kind id = "generic_type")
    (named : arena.field? id "name" = some name)
    (listed : arena.field? id "type_arguments" = some list) :
    resolve arena id = arena.text name ++ "<" ++
      ", ".intercalate ((arena.namedChildren list).map (resolve arena)) ++ ">" := by
  have isChild := linked.mem_children_of_field? listed
  have arguments : (arena.namedChildren list).map (resolveAt arena (3 * arena.size + 2)) =
      (arena.namedChildren list).map (resolve arena) :=
    List.map_congr_left fun argument member => resolveAt_child linked (founded.below isChild)
      (List.mem_of_mem_filter member) (by omega)
  rw [resolve, resolveAt]
  simp only [kind, named, listed, Option.map_some, Option.getD_some, arguments]

theorem resolve_tuple (kind : arena.kind id = "tuple_type")
    (unlabelled : ∀ member ∈ arena.namedChildren id,
      ["required_parameter", "optional_parameter"].contains (arena.kind member) = false) :
    resolve arena id =
      "[" ++ ", ".intercalate ((arena.namedChildren id).map (resolve arena)) ++ "]" := by
  have members : (arena.namedChildren id).map (tupleMemberAt arena (3 * arena.size + 2)) =
      (arena.namedChildren id).map (resolve arena) :=
    List.map_congr_left fun member isMember => by
      rw [tupleMemberAt, if_neg (Bool.eq_false_iff.mp (unlabelled member isMember)),
        resolveAt_child linked founded (List.mem_of_mem_filter isMember) (by omega)]
  rw [resolve, resolveAt]
  simp only [kind, members]

end Resolution

section Depiction

variable {arena : Arena} {id : Nat} {tree : TypeTree}

theorem Depicts.unlabelled (depicts : Depicts arena tree id) :
    ["required_parameter", "optional_parameter"].contains (arena.kind id) = false := by
  cases depicts with
  | @group _ connective _ kind =>
    rw [kind]
    cases connective <;> decide
  | predefined kind | identifier kind | generic kind | array kind | tuple kind
  | parenthesized kind =>
    rw [kind]
    decide

theorem exists_depicted {trees : List TypeTree} {ids : List Nat}
    (depict : List.Forall₂ (Depicts arena) trees ids) (isThere : id ∈ ids) :
    ∃ tree ∈ trees, Depicts arena tree id := by
  induction depict with
  | nil => cases isThere
  | cons here _ inductionHypothesis =>
    rcases List.mem_cons.mp isThere with rfl | behind
    · exact ⟨_, List.mem_cons_self, here⟩
    · obtain ⟨tree, member, depicts⟩ := inductionHypothesis behind
      exact ⟨tree, List.mem_cons_of_mem _ member, depicts⟩

/-- What is shown of single trees holds of lists of them. -/
theorem texts_eq {trees : List TypeTree} {ids : List Nat}
    (depict : List.Forall₂ (Depicts arena) trees ids)
    (each : ∀ tree ∈ trees, ∀ id ∈ ids, Depicts arena tree id → resolve arena id = tree.text) :
    ids.map (resolve arena) = trees.map TypeTree.text := by
  induction depict with
  | nil => rfl
  | cons here _ inductionHypothesis =>
    rw [List.map_cons, List.map_cons,
      each _ List.mem_cons_self _ List.mem_cons_self here,
      inductionHypothesis fun tree member id isThere =>
        each tree (List.mem_cons_of_mem _ member) id (List.mem_cons_of_mem _ isThere)]

/-- The members of a group are written one after the other, also where groups are nested. -/
theorem resolve_connective (linked : arena.Linked) (founded : arena.Founded id)
    {connective : Connective} (kind : arena.kind id = connective.kind)
    (inhabited : ∀ member ∈ arena.namedChildren id, arena.kind member = connective.kind →
      members arena connective.kind member ≠ []) :
    resolve arena id = connective.separator.intercalate
      ((arena.namedChildren id).map (resolve arena)) := by
  have known := connective.mem_groupings
  have joined (ids : List Nat) (listed : ∀ member ∈ ids, member ∈ arena.namedChildren id) :
      Joined connective.separator (ids.map (resolve arena))
        (ids.flatMap (memberTexts arena connective.kind)) := by
    induction ids with
    | nil => exact .nil
    | cons member rest inductionHypothesis =>
      obtain ⟨here, listed⟩ := List.forall_mem_cons.mp listed
      rw [List.map_cons, List.flatMap_cons, memberTexts]
      split
      · next nested =>
        rw [resolve_group linked (founded.below (List.mem_of_mem_filter here)) known nested]
        exact .group (inhabited member here nested) (inductionHypothesis listed)
      · exact .cons _ (inductionHypothesis listed)
  rw [resolve_group linked founded known kind, members_eq linked founded,
    (joined _ fun _ member => member).intercalate_eq]

/-- A group that is depicted has members. -/
theorem Depicts.members_ne_nil (linked : arena.Linked) (proper : tree.Proper)
    (depicts : Depicts arena tree id) (founded : arena.Founded id) {connective : Connective}
    (kind : arena.kind id = connective.kind) : members arena connective.kind id ≠ [] := by
  induction proper generalizing id with
  | @group _ trees notEmpty _ inductionHypothesis =>
    rw [members_eq linked founded]
    cases depicts with
    | group _ each =>
      obtain ⟨first, rest, rfl⟩ := List.exists_cons_of_ne_nil notEmpty
      obtain ⟨node, nodes, depicts, -, listed⟩ := List.forall₂_cons_left_iff.mp each
      have isThere : node ∈ arena.namedChildren id := listed ▸ List.mem_cons_self
      rw [listed, List.flatMap_cons, memberTexts]
      split
      · next nested =>
        exact List.append_ne_nil_of_left_ne_nil (inductionHypothesis first List.mem_cons_self
          depicts (founded.below (List.mem_of_mem_filter isThere)) nested) _
      · exact List.cons_ne_nil _ _
  | predefined | identifier | generic | array | tuple | parenthesized =>
    cases depicts
    next same => cases connective <;> simp_all [Connective.kind]

/-- A node has the text of the tree that it depicts. -/
theorem Depicts.resolve_eq (linked : arena.Linked) (proper : tree.Proper)
    (depicts : Depicts arena tree id) (founded : arena.Founded id) :
    resolve arena id = tree.text := by
  induction proper generalizing id with
  | predefined =>
    cases depicts with
    | predefined kind => rw [resolve_predefined kind, TypeTree.text]
  | identifier =>
    cases depicts with
    | identifier kind => rw [resolve_identifier kind, TypeTree.text]
  | generic _ _ _ inductionHypothesis =>
    cases depicts with
    | generic kind named listed each =>
      have below := founded.below (linked.mem_children_of_field? listed)
      rw [resolve_generic linked founded kind named listed, TypeTree.text, texts_eq each]
      exact fun tree member id isThere depicts => inductionHypothesis tree member depicts
        (below.below (List.mem_of_mem_filter isThere))
  | array _ inductionHypothesis =>
    cases depicts with
    | array kind isFirst depicts =>
      have isChild := List.mem_of_mem_filter (List.mem_of_mem_head? isFirst)
      rw [resolve_array linked founded kind isFirst, TypeTree.text,
        inductionHypothesis depicts (founded.below isChild)]
  | group _ proper inductionHypothesis =>
    cases depicts with
    | group kind each =>
      rw [resolve_connective linked founded kind, TypeTree.text, texts_eq each]
      · exact fun tree member id isThere depicts => inductionHypothesis tree member depicts
          (founded.below (List.mem_of_mem_filter isThere))
      · intro node isThere nested
        obtain ⟨tree, member, depicts⟩ := exists_depicted each isThere
        exact depicts.members_ne_nil linked (proper tree member)
          (founded.below (List.mem_of_mem_filter isThere)) nested
  | tuple _ inductionHypothesis =>
    cases depicts with
    | tuple kind each =>
      rw [resolve_tuple linked founded kind, TypeTree.text, texts_eq each]
      · exact fun tree member id isThere depicts => inductionHypothesis tree member depicts
          (founded.below (List.mem_of_mem_filter isThere))
      · intro node isThere
        obtain ⟨_, _, depicts⟩ := exists_depicted each isThere
        exact depicts.unlabelled
  | parenthesized _ inductionHypothesis =>
    cases depicts with
    | parenthesized kind isFirst depicts =>
      have isChild := List.mem_of_mem_filter (List.mem_of_mem_head? isFirst)
      rw [resolve_parenthesized linked founded kind isFirst, TypeTree.text,
        inductionHypothesis depicts (founded.below isChild)]

end Depiction

end ExportIndex.TypeScript
