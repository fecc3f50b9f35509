import ExportIndex.Json.Shape
import ExportIndex.Proofs.Related
import Mathlib

/-
This file says when a JSON value restates another one for a type that is read out of it: members
of objects may change places, and objects of structures may get members that the structure does
not know. What a structure finds under its fields does not change by that.
-/

namespace ExportIndex.Json

/-- What a type looks for in a value. -/
inductive Shape where
  /-- A value that is taken as it is. -/
  | plain
  | listOf (item : Shape)
  /-- An object with fields, which may have other members. -/
  | struct (fields : List (String × Shape))
  /-- An object with a single member, whose key tells what it holds. -/
  | tagged (cases : List (String × Shape))

mutual

/-- The second value says to a type of some shape what the first one says. -/
inductive Restates : Shape → Json → Json → Prop
  | plain (json : Json) : Restates .plain json json
  | list {item : Shape} {items others : List Json} (restated : RestatesItems item items others) :
      Restates (.listOf item) (.list items) (.list others)
  | struct {fields : List (String × Shape)} {members known unknown others : List (String × Json)}
      (restated : RestatesMembers fields members known)
      (foreign : ∀ member ∈ unknown, member.1 ∉ fields.map Prod.fst)
      (reordered : others.Perm (known ++ unknown)) :
      Restates (.struct fields) (.object members) (.object others)
  | tagged {cases : List (String × Shape)} {key : String} {shape : Shape} {value other : Json}
      (case : (key, shape) ∈ cases) (restated : Restates shape value other) :
      Restates (.tagged cases) (.object [(key, value)]) (.object [(key, other)])

inductive RestatesItems : Shape → List Json → List Json → Prop
  | nil {item : Shape} : RestatesItems item [] []
  | cons {item : Shape} {first other : Json} {rest others : List Json}
      (restated : Restates item first other) (behind : RestatesItems item rest others) :
      RestatesItems item (first :: rest) (other :: others)

/-- Members restate members one by one, under the same keys. -/
inductive RestatesMembers : List (String × Shape) → List (String × Json) →
    List (String × Json) → Prop
  | nil {fields : List (String × Shape)} : RestatesMembers fields [] []
  | cons {fields : List (String × Shape)} {key : String} {shape : Shape} {value other : Json}
      {rest others : List (String × Json)} (field : (key, shape) ∈ fields)
      (restated : Restates shape value other) (behind : RestatesMembers fields rest others) :
      RestatesMembers fields ((key, value) :: rest) ((key, other) :: others)

end

theorem Restates.eq_of_plain {json other : Json} (restated : Restates .plain json other) :
    other = json := by
  cases restated
  rfl

theorem RestatesItems.forall₂ {item : Shape} {items others : List Json}
    (restated : RestatesItems item items others) :
    List.Forall₂ (Restates item) items others := by
  induction items generalizing others with
  | nil =>
    cases restated
    exact .nil
  | cons first rest ih =>
    cases restated with
    | cons restated behind => exact .cons restated (ih behind)

/-- Items that restate themselves make a list that does. -/
theorem restates_list {item : Shape} {items : List Json}
    (same : ∀ json ∈ items, Restates item json json) :
    Restates (.listOf item) (.list items) (.list items) := by
  refine .list ?_
  induction items with
  | nil => exact .nil
  | cons first rest ih =>
    exact .cons (same first List.mem_cons_self)
      (ih fun json member => same json (List.mem_cons_of_mem _ member))

/-- Members that restate themselves do so under the fields that they belong to. -/
theorem restatesMembers_refl {fields : List (String × Shape)} {members : List (String × Json)}
    (same : ∀ member ∈ members, ∃ shape, (member.1, shape) ∈ fields ∧
      Restates shape member.2 member.2) : RestatesMembers fields members members := by
  induction members with
  | nil => exact .nil
  | cons first rest ih =>
    obtain ⟨shape, field, restated⟩ := same first List.mem_cons_self
    exact .cons field restated (ih fun member behind => same member (List.mem_cons_of_mem _ behind))

theorem restates_structure {fields : List (String × Shape)} {members : List (String × Json)}
    (same : ∀ member ∈ members, ∃ shape, (member.1, shape) ∈ fields ∧
      Restates shape member.2 member.2) :
    Restates (.struct fields) (.object members) (.object members) := by
  have nothing : ∀ member ∈ ([] : List (String × Json)), member.1 ∉ fields.map Prod.fst := by simp
  exact .struct (restatesMembers_refl same) nothing (by simp)

section Members

variable {fields : List (String × Shape)} {members known : List (String × Json)}

theorem RestatesMembers.keys_eq (restated : RestatesMembers fields members known) :
    known.map Prod.fst = members.map Prod.fst := by
  induction members generalizing known with
  | nil =>
    cases restated
    rfl
  | cons first rest ih =>
    cases restated with
    | cons field restated behind => rw [List.map_cons, List.map_cons, ih behind]

theorem RestatesMembers.exists_member (restated : RestatesMembers fields members known)
    {key : String} {value : Json} (member : (key, value) ∈ members) :
    ∃ shape other, (key, shape) ∈ fields ∧ (key, other) ∈ known ∧ Restates shape value other := by
  induction members generalizing known with
  | nil => cases member
  | cons first rest ih =>
    cases restated with
    | cons field restated behind =>
      rcases List.mem_cons.mp member with same | later
      · obtain ⟨rfl, rfl⟩ := Prod.mk.inj same
        exact ⟨_, _, field, List.mem_cons_self, restated⟩
      · obtain ⟨shape, other, isField, isKnown, restatedThere⟩ := ih behind later
        exact ⟨shape, other, isField, List.mem_cons_of_mem _ isKnown, restatedThere⟩

/-- A key with one value leads to this value, wherever it stands. -/
theorem member?_eq_some {key : String} {value : Json} (member : (key, value) ∈ members)
    (only : ∀ other, (key, other) ∈ members → other = value) :
    (object members).member? key = some value := by
  have there : (members.reverse.find? fun entry => entry.1 = key).isSome := by
    rw [List.find?_isSome]
    exact ⟨_, List.mem_reverse.mpr member, by simp⟩
  obtain ⟨⟨other, found⟩, isFound⟩ := Option.isSome_iff_exists.mp there
  obtain rfl : other = key := by simpa using List.find?_some isFound
  have inside := List.mem_reverse.mp (List.mem_of_find?_eq_some isFound)
  rw [Json.member?, isFound, Option.map_some, only found inside]

theorem member?_eq_none {key : String} (absent : key ∉ members.map Prod.fst) :
    (object members).member? key = none := by
  rw [Json.member?, Option.map_eq_none_iff, List.find?_eq_none]
  intro entry member same
  obtain rfl : entry.1 = key := by simpa using same
  exact absent (List.mem_map_of_mem (List.mem_reverse.mp member))

theorem eq_of_distinct {A : Type} {items : List (String × A)}
    (distinct : (items.map Prod.fst).Nodup) {key : String} {value other : A} (member : (key, value) ∈ items)
    (otherMember : (key, other) ∈ items) : other = value :=
  (Prod.mk.inj (List.inj_on_of_nodup_map distinct otherMember member rfl)).2

/-- A structure finds under each of its fields what it finds there when the value is restated. -/
theorem Restates.member? {others : List (String × Json)}
    (restated : Restates (.struct fields) (.object members) (.object others))
    (distinctFields : (fields.map Prod.fst).Nodup) (distinct : (members.map Prod.fst).Nodup)
    {key : String} {shape : Shape} (field : (key, shape) ∈ fields) :
    Option.Rel (Restates shape) ((object members).member? key) ((object others).member? key) := by
  cases restated with
  | @struct _ _ known unknown _ restated foreign reordered =>
    have keys := restated.keys_eq
    have apart (other : Json) : (key, other) ∉ unknown := fun inside =>
      foreign _ inside (List.mem_map_of_mem field)
    have within (other : Json) : (key, other) ∈ others ↔ (key, other) ∈ known := by
      rw [reordered.mem_iff, List.mem_append, or_iff_left (apart other)]
    by_cases present : key ∈ members.map Prod.fst
    · obtain ⟨⟨_, value⟩, member, rfl⟩ := List.mem_map.mp present
      obtain ⟨own, other, ownField, isKnown, same⟩ := restated.exists_member member
      obtain rfl := eq_of_distinct distinctFields field ownField
      rw [member?_eq_some member fun _ => eq_of_distinct distinct member,
        member?_eq_some ((within other).mpr isKnown) fun _ inside =>
          eq_of_distinct (keys ▸ distinct) isKnown ((within _).mp inside)]
      exact .some same
    · have absent : key ∉ others.map Prod.fst := by
        intro inside
        obtain ⟨⟨_, other⟩, member, rfl⟩ := List.mem_map.mp inside
        exact present (keys ▸ List.mem_map_of_mem ((within other).mp member))
      rw [member?_eq_none present, member?_eq_none absent]
      exact .none

/-- A value that restates a structure has its fields: those that are taken as they are keep their
values, the others get values that restate them. -/
theorem Restates.fields? {json : Json}
    (restated : Restates (.struct fields) (.object members) json)
    (distinctFields : (fields.map Prod.fst).Nodup) (distinct : (members.map Prod.fst).Nodup)
    (names : List String) (least : Nat) :
    ∃ field, json.fields? names least = some field ∧
      (∀ key, (key, .plain) ∈ fields → field key = (object members).member? key) ∧
      ∀ key shape, (key, shape) ∈ fields →
        Option.Rel (Restates shape) ((object members).member? key) (field key) := by
  obtain ⟨others, rfl⟩ : ∃ others, json = object others := by
    cases restated
    exact ⟨_, rfl⟩
  refine ⟨_, rfl, fun key plain => ?_, fun key shape field => ?_⟩
  · have same := restated.member? distinctFields distinct plain
    generalize (object members).member? key = first at same
    generalize (object others).member? key = second at same
    cases same with
    | none => rfl
    | some same => rw [same.eq_of_plain]
  · exact restated.member? distinctFields distinct field

end Members

end ExportIndex.Json
