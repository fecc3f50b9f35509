import ExportIndex.Proofs.TypeScript.TypeTree
import Mathlib

/-
This file says when trees are the same type and when a type needs no parentheses, which is the same
for trees of the same type.
-/

namespace ExportIndex.TypeScript

/-- How tightly a group holds together. -/
def Connective.strength : Connective → Nat
  | union => 0
  | intersection => 1

namespace TypeTree

/-- How tightly a type holds together without parentheses: a union less than an intersection, and
these less than the others. A group of one member is that member. -/
def strength : TypeTree → Nat
  | group _ [member] => member.strength
  | group connective _ => connective.strength
  | parenthesized inner => inner.strength
  | _ => 2

/-- Trees are the same type. They may differ in parentheses, in the letter case of predefined names
and in how the members of nested groups are put together. -/
inductive Same : TypeTree → TypeTree → Prop
  | refl (tree : TypeTree) : Same tree tree
  | symm {tree other : TypeTree} (same : Same tree other) : Same other tree
  | trans {tree other third : TypeTree} (same : Same tree other) (next : Same other third) :
      Same tree third
  | parentheses (inner : TypeTree) : Same (.parenthesized inner) inner
  | letterCase {name other : String} (same : Text.lowerCase name = Text.lowerCase other) :
      Same (.predefined name) (.predefined other)
  | regroup {connective : Connective} {before own behind : List TypeTree} (notEmpty : own ≠ []) :
      Same (.group connective (before ++ .group connective own :: behind))
        (.group connective (before ++ own ++ behind))
  | single (connective : Connective) (member : TypeTree) :
      Same (.group connective [member]) member
  | argument {name : String} {before behind : List TypeTree} {tree other : TypeTree}
      (same : Same tree other) :
      Same (.generic name (before ++ tree :: behind)) (.generic name (before ++ other :: behind))
  | element {tree other : TypeTree} (same : Same tree other) : Same (.array tree) (.array other)
  | member {connective : Connective} {before behind : List TypeTree} {tree other : TypeTree}
      (same : Same tree other) :
      Same (.group connective (before ++ tree :: behind))
        (.group connective (before ++ other :: behind))
  | component {before behind : List TypeTree} {tree other : TypeTree} (same : Same tree other) :
      Same (.tuple (before ++ tree :: behind)) (.tuple (before ++ other :: behind))

/-- No parentheses are needed: the elements of arrays hold together, and the members of a group do
so at least as tightly as the group itself. -/
inductive Loose : TypeTree → Prop
  | predefined (name : String) : Loose (.predefined name)
  | identifier (name : String) : Loose (.identifier name)
  | generic {name : String} {arguments : List TypeTree}
      (each : ∀ argument ∈ arguments, Loose argument) : Loose (.generic name arguments)
  | array {element : TypeTree} (loose : Loose element) (tight : element.strength = 2) :
      Loose (.array element)
  | group {connective : Connective} {members : List TypeTree}
      (each : ∀ member ∈ members, Loose member)
      (tight : members.length = 1 ∨ ∀ member ∈ members, connective.strength ≤ member.strength) :
      Loose (.group connective members)
  | tuple {members : List TypeTree} (each : ∀ member ∈ members, Loose member) :
      Loose (.tuple members)
  | parenthesized {inner : TypeTree} (loose : Loose inner) : Loose (.parenthesized inner)

section Looseness

theorem loose_generic {name : String} {arguments : List TypeTree} :
    (generic name arguments).Loose ↔ ∀ argument ∈ arguments, argument.Loose :=
  ⟨fun loose => by cases loose; assumption, .generic⟩

theorem loose_array {element : TypeTree} :
    element.array.Loose ↔ element.Loose ∧ element.strength = 2 :=
  ⟨fun loose => by cases loose; exact ⟨‹_›, ‹_›⟩, fun ⟨loose, tight⟩ => .array loose tight⟩

theorem loose_group {connective : Connective} {members : List TypeTree} :
    (group connective members).Loose ↔ (∀ member ∈ members, member.Loose) ∧
      (members.length = 1 ∨ ∀ member ∈ members, connective.strength ≤ member.strength) :=
  ⟨fun loose => by cases loose; exact ⟨‹_›, ‹_›⟩, fun ⟨each, tight⟩ => .group each tight⟩

theorem loose_tuple {members : List TypeTree} :
    (tuple members).Loose ↔ ∀ member ∈ members, member.Loose :=
  ⟨fun loose => by cases loose; assumption, .tuple⟩

theorem loose_parenthesized {inner : TypeTree} : inner.parenthesized.Loose ↔ inner.Loose :=
  ⟨fun loose => by cases loose; assumption, .parenthesized⟩

theorem strength_of_many {connective : Connective} {members : List TypeTree}
    (many : members.length ≠ 1) : (group connective members).strength = connective.strength := by
  rw [strength]
  rintro only rfl
  exact many rfl

theorem loose_single {connective : Connective} {member : TypeTree} :
    (group connective [member]).Loose ↔ member.Loose := by
  simp [loose_group]

theorem loose_of_many {connective : Connective} {members : List TypeTree}
    (many : members.length ≠ 1) : (group connective members).Loose ↔
      ∀ member ∈ members, member.Loose ∧ connective.strength ≤ member.strength := by
  rw [loose_group, or_iff_right many, forall₂_and]

/-- A group can stand in a group of its kind if all its members can. -/
theorem loose_nested {connective : Connective} {members : List TypeTree} :
    (group connective members).Loose ∧
        connective.strength ≤ (group connective members).strength ↔
      ∀ member ∈ members, member.Loose ∧ connective.strength ≤ member.strength := by
  by_cases single : members.length = 1
  · obtain ⟨only, rfl⟩ := List.length_eq_one_iff.mp single
    rw [loose_single, strength, List.forall_mem_singleton]
  · rw [loose_of_many single, strength_of_many single, and_iff_left le_rfl]

/-- With something beside it a group is no single member. -/
theorem length_beside {before own behind : List TypeTree} (notEmpty : own ≠ [])
    (beside : ¬ (before = [] ∧ behind = [])) : (before ++ own ++ behind).length ≠ 1 := by
  have inhabited := List.length_pos_iff.mpr notEmpty
  have more : before.length + behind.length ≠ 0 := by simpa using beside
  rw [List.length_append, List.length_append]
  omega

end Looseness

namespace Same

variable {tree other : TypeTree}

theorem strength_eq (same : Same tree other) : tree.strength = other.strength := by
  induction same with
  | refl => rfl
  | symm _ inductionHypothesis => exact inductionHypothesis.symm
  | trans _ _ first second => exact first.trans second
  | parentheses inner => rw [strength]
  | letterCase => rfl
  | @regroup connective before own behind notEmpty =>
    by_cases alone : before = [] ∧ behind = []
    · obtain ⟨rfl, rfl⟩ := alone
      rw [List.nil_append, strength, List.nil_append, List.append_nil]
    · rw [List.append_cons, strength_of_many (length_beside (List.cons_ne_nil _ _) alone),
        strength_of_many (length_beside notEmpty alone)]
  | single connective member => rw [strength]
  | argument => rfl
  | element => rfl
  | @member connective before behind tree other _ inductionHypothesis =>
    by_cases alone : before = [] ∧ behind = []
    · obtain ⟨rfl, rfl⟩ := alone
      rwa [List.nil_append, List.nil_append, strength, strength]
    · rw [List.append_cons, List.append_cons before other,
        strength_of_many (length_beside (List.cons_ne_nil _ _) alone),
        strength_of_many (length_beside (List.cons_ne_nil _ _) alone)]
  | component => rfl

theorem text_eq (same : Same tree other) : tree.text = other.text := by
  induction same with
  | refl => rfl
  | symm _ inductionHypothesis => exact inductionHypothesis.symm
  | trans _ _ first second => exact first.trans second
  | parentheses inner => rw [text]
  | letterCase same => rw [text, text, same]
  | @regroup connective before own behind notEmpty =>
    have single (trees : List TypeTree) :
        Joined connective.separator (trees.map text) (trees.map text) := by
      induction trees with
      | nil => exact .nil
      | cons tree trees inductionHypothesis => exact inductionHypothesis.cons _
    have filled : own.map text ≠ [] := by simpa using notEmpty
    have joined := (single before).append (.group filled (single behind))
    rw [text, text, List.map_append, List.map_cons, text, joined.intercalate_eq, List.append_assoc,
      List.map_append, List.map_append]
  | single connective member => rw [text, List.map_singleton, String.intercalate_singleton]
  | argument _ inductionHypothesis | element _ inductionHypothesis
  | member _ inductionHypothesis | component _ inductionHypothesis =>
    simp only [text, List.map_append, List.map_cons, inductionHypothesis]

/-- Trees of the same type need parentheses together. -/
theorem loose_iff (same : Same tree other) : tree.Loose ↔ other.Loose := by
  induction same with
  | refl => rfl
  | symm _ inductionHypothesis => exact inductionHypothesis.symm
  | trans _ _ first second => exact first.trans second
  | parentheses => exact loose_parenthesized
  | letterCase => exact ⟨fun _ => .predefined _, fun _ => .predefined _⟩
  | @regroup connective before own behind notEmpty =>
    by_cases alone : before = [] ∧ behind = []
    · obtain ⟨rfl, rfl⟩ := alone
      rw [List.nil_append, loose_single, List.nil_append, List.append_nil]
    · rw [List.append_cons, loose_of_many (length_beside (List.cons_ne_nil _ _) alone),
        loose_of_many (length_beside notEmpty alone)]
      simp only [List.forall_mem_append, List.forall_mem_singleton, loose_nested]
  | single connective member => exact loose_single
  | argument _ inductionHypothesis =>
    simp only [loose_generic, List.forall_mem_append, List.forall_mem_cons, inductionHypothesis]
  | element same inductionHypothesis =>
    rw [loose_array, loose_array, inductionHypothesis, same.strength_eq]
  | member same inductionHypothesis =>
    simp only [loose_group, List.forall_mem_append, List.forall_mem_cons, List.length_append,
      List.length_cons, inductionHypothesis, same.strength_eq]
  | component _ inductionHypothesis =>
    simp only [loose_tuple, List.forall_mem_append, List.forall_mem_cons, inductionHypothesis]

section Lists

variable {trees : List TypeTree} {lists : List (List TypeTree)}

/-- Where one tree may be replaced by another one of the same type, so may all of a list. -/
theorem of_list {wrap : List TypeTree → TypeTree}
    (one : ∀ {before behind : List TypeTree} {tree other : TypeTree}, Same tree other →
      Same (wrap (before ++ tree :: behind)) (wrap (before ++ other :: behind)))
    {others : List TypeTree} (each : List.Forall₂ Same trees others) :
    Same (wrap trees) (wrap others) := by
  suffices behind : ∀ before, Same (wrap (before ++ trees)) (wrap (before ++ others)) from
    behind []
  induction each with
  | nil => exact fun before => .refl _
  | @cons tree other trees others here _ inductionHypothesis =>
    intro before
    have rest := inductionHypothesis (before ++ [other])
    rw [List.append_assoc, List.append_assoc] at rest
    exact (one here).trans rest

/-- Nested groups of the same kind may all be opened. -/
theorem flatten {connective : Connective} (filled : ∀ list ∈ lists, list ≠ []) :
    Same (.group connective (lists.map (.group connective))) (.group connective lists.flatten) := by
  suffices behind : ∀ before, Same (.group connective (before ++ lists.map (.group connective)))
      (.group connective (before ++ lists.flatten)) from behind []
  induction lists with
  | nil => exact fun before => .refl _
  | cons list lists inductionHypothesis =>
    intro before
    obtain ⟨here, filled⟩ := List.forall_mem_cons.mp filled
    have rest := inductionHypothesis filled (before ++ list)
    rw [List.append_assoc _ _ lists.flatten] at rest
    exact (regroup here).trans rest

theorem map {wrap : List TypeTree → TypeTree}
    (one : ∀ {before behind : List TypeTree} {tree other : TypeTree}, Same tree other →
      Same (wrap (before ++ tree :: behind)) (wrap (before ++ other :: behind)))
    {image : TypeTree → TypeTree} (each : ∀ tree ∈ trees, Same tree (image tree)) :
    Same (wrap trees) (wrap (trees.map image)) := by
  refine of_list one ?_
  rw [List.forall₂_map_right_iff, List.forall₂_same]
  exact each

end Lists

end Same

end TypeTree

end ExportIndex.TypeScript
