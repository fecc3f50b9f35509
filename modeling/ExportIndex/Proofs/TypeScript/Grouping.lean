import ExportIndex.Proofs.TypeScript.Depth
import Mathlib

/-
This file says how unions and intersections are written: as the types that they are made of, one
after the other. How these are grouped and which groups stand in parentheses leaves no trace.
-/

namespace ExportIndex.TypeScript

open Arena

variable {arena : Arena} {kind separator : String} {id inner type : Nat}

/-- The types that are made of members, and what stands between the members in their texts. -/
def groupings : List (String × String) := [("union_type", " | "), ("intersection_type", " & ")]

/-- A type is what is left of a node when the parentheses around it are removed. -/
inductive Bare (arena : Arena) : Nat → Nat → Prop
  | plain {id : Nat} (kind : arena.kind id ≠ "parenthesized_type") : Bare arena id id
  | hollow {id : Nat} (kind : arena.kind id = "parenthesized_type")
      (nothing : (arena.namedChildren id).head? = none) : Bare arena id id
  | within {id inner type : Nat} (kind : arena.kind id = "parenthesized_type")
      (isFirst : (arena.namedChildren id).head? = some inner) (bare : Bare arena inner type) :
      Bare arena id type

/-- The types that members are made of, where groups of the kind are replaced by what these are made
of. Every such group has members. -/
inductive MadeOf (arena : Arena) (kind : String) : List Nat → List Nat → Prop
  | nil : MadeOf arena kind [] []
  | leaf {member type : Nat} {rest leaves : List Nat} (bare : Bare arena member type)
      (other : arena.kind type ≠ kind) (behind : MadeOf arena kind rest leaves) :
      MadeOf arena kind (member :: rest) (type :: leaves)
  | group {member type : Nat} {rest own leaves : List Nat} (bare : Bare arena member type)
      (same : arena.kind type = kind) (inhabited : arena.namedChildren type ≠ [])
      (within : MadeOf arena kind (arena.namedChildren type) own)
      (behind : MadeOf arena kind rest leaves) :
      MadeOf arena kind (member :: rest) (own ++ leaves)

/-- The leaves of a union or of an intersection. -/
structure HasLeaves (arena : Arena) (kind : String) (id : Nat) (leaves : List Nat) : Prop where
  isGroup : arena.kind id = kind
  inhabited : arena.namedChildren id ≠ []
  madeOf : MadeOf arena kind (arena.namedChildren id) leaves

section Texts

/-- The texts of the members of a group, with those of directly nested groups. -/
def members (arena : Arena) (kind : String) (id : Nat) : List String :=
  membersAt arena kind (3 * arena.size + 3) id

/-- The texts that a member of a group gives. -/
def memberTexts (arena : Arena) (kind : String) (member : Nat) : List String :=
  if arena.kind member = kind then members arena kind member else [resolve arena member]

/-- Where every way down ends, all depths from that of the whole arena on are the same. -/
theorem resolveAt_eq (linked : arena.Linked) (founded : arena.Founded id) {bound depth : Nat}
    (inside : arena.height id < bound) (within : bound ≤ arena.size + 1)
    (enough : 3 * bound ≤ depth) : resolveAt arena depth id = resolve arena id :=
  (typesAgree (parallel_within linked) bound).type (founded.within inside) enough (by omega)

theorem membersAt_eq (linked : arena.Linked) (founded : arena.Founded id) (kind : String)
    {bound depth : Nat} (inside : arena.height id < bound) (within : bound ≤ arena.size + 1)
    (enough : 3 * bound ≤ depth + 1) : membersAt arena kind depth id = members arena kind id :=
  (typesAgree (parallel_within linked) bound).members kind (founded.within inside) enough (by omega)

theorem members_eq (linked : arena.Linked) (founded : arena.Founded id) (kind : String) :
    members arena kind id = (arena.namedChildren id).flatMap (memberTexts arena kind) := by
  rw [members, membersAt]
  apply List.flatMap_congr
  intro member isMember
  have isChild := List.mem_of_mem_filter isMember
  have inside := (founded.height_lt linked isChild).trans_le (height_le_size linked id)
  rw [memberTexts,
    membersAt_eq linked (founded.below isChild) kind inside (Nat.le_succ _) (by omega),
    resolveAt_eq linked (founded.below isChild) inside (Nat.le_succ _) (by omega)]

theorem resolve_group (linked : arena.Linked) (founded : arena.Founded id)
    (known : (kind, separator) ∈ groupings) (isGroup : arena.kind id = kind) :
    resolve arena id = separator.intercalate (members arena kind id) := by
  have same : membersAt arena kind (3 * arena.size + 2) id = members arena kind id :=
    membersAt_eq linked founded kind (Nat.lt_succ_of_le (height_le_size linked id)) le_rfl
      (by omega)
  rw [resolve, resolveAt]
  simp only [groupings, List.mem_cons, Prod.mk.injEq, List.not_mem_nil, or_false] at known
  rcases known with ⟨rfl, rfl⟩ | ⟨rfl, rfl⟩ <;> simp only [isGroup, same]

/-- Parentheses are transparent. -/
theorem resolve_parenthesized (linked : arena.Linked) (founded : arena.Founded id)
    (isWrapped : arena.kind id = "parenthesized_type")
    (isFirst : (arena.namedChildren id).head? = some inner) :
    resolve arena id = resolve arena inner := by
  have isChild := List.mem_of_mem_filter (List.mem_of_mem_head? isFirst)
  have inside := (founded.height_lt linked isChild).trans_le (height_le_size linked id)
  have same := resolveAt_eq linked (founded.below isChild) inside (Nat.le_succ _)
    (Nat.le_add_right (3 * arena.size) 2)
  rw [resolve, resolveAt]
  simp only [isWrapped, firstNamed?, isFirst, same]

theorem Bare.founded (bare : Bare arena id type) (founded : arena.Founded id) :
    arena.Founded type := by
  induction bare with
  | plain => exact founded
  | hollow => exact founded
  | within _ isFirst _ ih =>
    exact ih (founded.below (List.mem_of_mem_filter (List.mem_of_mem_head? isFirst)))

theorem Bare.resolve_eq (linked : arena.Linked) (bare : Bare arena id type)
    (founded : arena.Founded id) : resolve arena id = resolve arena type := by
  induction bare with
  | plain => rfl
  | hollow => rfl
  | within isWrapped isFirst _ ih =>
    rw [resolve_parenthesized linked founded isWrapped isFirst,
      ih (founded.below (List.mem_of_mem_filter (List.mem_of_mem_head? isFirst)))]

/-- What stands in no parentheses is left as it is. -/
theorem Bare.eq_of_kind (bare : Bare arena id type)
    (unwrapped : arena.kind id ≠ "parenthesized_type") : type = id := by
  cases bare with
  | plain => rfl
  | hollow => rfl
  | within isWrapped => exact absurd isWrapped unwrapped

end Texts

section Joins

/-- Some texts are others of which neighbours have been joined. -/
inductive Joined (separator : String) : List String → List String → Prop
  | nil : Joined separator [] []
  | group {own parts texts : List String} (inhabited : own ≠ [])
      (behind : Joined separator parts texts) :
      Joined separator (separator.intercalate own :: parts) (own ++ texts)

theorem Joined.cons {parts texts : List String} (text : String)
    (joined : Joined separator parts texts) :
    Joined separator (text :: parts) (text :: texts) := by
  have single := Joined.group (List.cons_ne_nil text []) joined
  rwa [String.intercalate_singleton] at single

theorem Joined.append {parts texts others rest : List String}
    (joined : Joined separator parts texts) (behind : Joined separator others rest) :
    Joined separator (parts ++ others) (texts ++ rest) := by
  induction joined with
  | nil => exact behind
  | group inhabited _ ih =>
    rw [List.append_assoc]
    exact .group inhabited ih

theorem Joined.eq_nil_iff {parts texts : List String} (joined : Joined separator parts texts) :
    parts = [] ↔ texts = [] := by
  cases joined with
  | nil => simp
  | group inhabited => simp [inhabited]

/-- To join all of them comes to the same. -/
theorem Joined.intercalate_eq {parts texts : List String}
    (joined : Joined separator parts texts) :
    separator.intercalate parts = separator.intercalate texts := by
  induction joined with
  | nil => rfl
  | @group own parts texts inhabited behind ih =>
    by_cases last : parts = []
    · rw [last, behind.eq_nil_iff.mp last, String.intercalate_singleton, List.append_nil]
    · rw [String.intercalate_cons_of_ne_nil last, ih,
        String.intercalate_append_of_ne_nil inhabited (behind.eq_nil_iff.not.mp last)]

end Joins

section Leaves

variable {ids leaves : List Nat}

theorem MadeOf.eq_nil_iff (madeOf : MadeOf arena kind ids leaves) : ids = [] ↔ leaves = [] := by
  induction madeOf with
  | nil => simp
  | leaf => simp
  | group _ _ inhabited _ _ own _ => simp [own.not.mp inhabited]

/-- Of the kinds of groups none is that of parentheses. -/
theorem unwrapped_of_known (known : (kind, separator) ∈ groupings) :
    kind ≠ "parenthesized_type" := by
  rintro rfl
  simp [groupings] at known

/-- The texts of members are those of their leaves, or joined texts of neighbours among these: a
group in parentheses has been joined before. -/
theorem MadeOf.joined (linked : arena.Linked) (known : (kind, separator) ∈ groupings)
    (madeOf : MadeOf arena kind ids leaves) (founded : ∀ id ∈ ids, arena.Founded id) :
    Joined separator (ids.flatMap (memberTexts arena kind)) (leaves.map (resolve arena)) := by
  have unwrapped := unwrapped_of_known known
  induction madeOf with
  | nil => exact .nil
  | @leaf member type rest leaves bare other behind ih =>
    obtain ⟨here, others⟩ := List.forall_mem_cons.mp founded
    have alone : memberTexts arena kind member = [resolve arena type] := by
      rw [memberTexts, if_neg, bare.resolve_eq linked here]
      intro isGroup
      exact other (bare.eq_of_kind (isGroup ▸ unwrapped) ▸ isGroup)
    rw [List.flatMap_cons, alone, List.map_cons]
    exact (ih others).cons _
  | @group member type rest own leaves bare same inhabited within behind ownIh ih =>
    obtain ⟨here, others⟩ := List.forall_mem_cons.mp founded
    have typeFounded := bare.founded here
    have texts := ownIh fun child isChild => typeFounded.below (List.mem_of_mem_filter isChild)
    rw [← members_eq linked typeFounded] at texts
    rw [List.flatMap_cons, List.map_append]
    refine Joined.append ?_ (ih others)
    rw [memberTexts]
    split
    · next direct => rwa [← bare.eq_of_kind (direct ▸ unwrapped)]
    · have filled : own.map (resolve arena) ≠ [] := by
        simpa using within.eq_nil_iff.not.mp inhabited
      have whole : Joined separator _ _ := .group filled .nil
      rwa [← texts.intercalate_eq, ← resolve_group linked typeFounded known same,
        ← bare.resolve_eq linked here, List.append_nil] at whole

theorem HasLeaves.resolve_eq (linked : arena.Linked) (known : (kind, separator) ∈ groupings)
    (founded : arena.Founded id) (has : HasLeaves arena kind id leaves) :
    resolve arena id = separator.intercalate (leaves.map (resolve arena)) := by
  have joined := has.madeOf.joined linked known fun child isChild =>
    founded.below (List.mem_of_mem_filter isChild)
  rw [resolve_group linked founded known has.isGroup, members_eq linked founded,
    joined.intercalate_eq]

/-- All parentheses can be removed where every way down ends. -/
theorem exists_bare (founded : arena.Founded id) :
    ∃ type, Bare arena id type ∧ arena.Reaches id type := by
  induction founded with
  | intro id _ ih =>
    by_cases isWrapped : arena.kind id = "parenthesized_type"
    · cases isFirst : (arena.namedChildren id).head? with
      | none => exact ⟨id, .hollow isWrapped isFirst, .refl⟩
      | some inner =>
        have isChild := List.mem_of_mem_filter (List.mem_of_mem_head? isFirst)
        obtain ⟨type, bare, path⟩ := ih inner isChild
        exact ⟨type, .within isWrapped isFirst bare, .head isChild path⟩
    · exact ⟨id, .plain isWrapped, .refl⟩

/-- A finite group has leaves if each group of its kind that it reaches has members. -/
theorem exists_madeOf (founded : arena.Founded id)
    (inhabited : ∀ node, arena.Reaches id node → arena.kind node = kind →
      arena.namedChildren node ≠ []) :
    ∃ leaves, MadeOf arena kind (arena.namedChildren id) leaves := by
  have deep : Acc (Relation.TransGen fun child parent => child ∈ arena.children parent) id :=
    Acc.transGen founded
  induction deep with
  | intro id _ ih =>
    have each (ids : List Nat) (listed : ∀ member ∈ ids, member ∈ arena.namedChildren id) :
        ∃ leaves, MadeOf arena kind ids leaves := by
      induction ids with
      | nil => exact ⟨[], .nil⟩
      | cons member rest others =>
        obtain ⟨here, listed⟩ := List.forall_mem_cons.mp listed
        have isChild := List.mem_of_mem_filter here
        obtain ⟨leaves, behind⟩ := others listed
        obtain ⟨type, bare, path⟩ := exists_bare (founded.below isChild)
        have reached : arena.Reaches id type := .head isChild path
        by_cases same : arena.kind type = kind
        · have under : Relation.TransGen (fun child parent => child ∈ arena.children parent)
              type id :=
            Relation.transGen_swap.mp (Relation.TransGen.head' isChild path)
          obtain ⟨own, within⟩ := ih type under (bare.founded (founded.below isChild))
            fun node path => inhabited node (reached.trans path)
          exact ⟨_, .group bare same (inhabited type reached same) within behind⟩
        · exact ⟨_, .leaf bare same behind⟩
    exact each _ fun _ member => member

end Leaves

/-- A finite union or intersection is written as its leaves, joined in their order, and it has
leaves if the groups in it have members. Types with leaves of the same texts have the same text,
however their leaves are grouped. -/
theorem groups_join_leaves (constructed : arena.Constructed)
    (known : (kind, separator) ∈ groupings) (isGroup : arena.kind id = kind)
    (founded : arena.Founded id) :
    ((∀ node, arena.Reaches id node → arena.kind node = kind → arena.namedChildren node ≠ []) →
      ∃ leaves, HasLeaves arena kind id leaves) ∧
    ∀ leaves, HasLeaves arena kind id leaves →
      resolve arena id = separator.intercalate (leaves.map (resolve arena)) ∧
      ∀ other twin others, other.Constructed → other.Founded twin →
        HasLeaves other kind twin others → others.map (resolve other) = leaves.map (resolve arena) →
          resolve other twin = resolve arena id := by
  have linked := constructed.linked
  constructor
  · intro inhabited
    obtain ⟨leaves, madeOf⟩ := exists_madeOf founded inhabited
    exact ⟨leaves, isGroup, inhabited id .refl isGroup, madeOf⟩
  · intro leaves has
    have text := has.resolve_eq linked known founded
    refine ⟨text, fun other twin others built deep hasOthers same => ?_⟩
    rw [text, hasOthers.resolve_eq built.linked known deep, same]

/-- The tree of `A|(B|(C))|D`. -/
def nestedUnion : Arena :=
  .ofTree "A|(B|(C))|D" <| .notion "union_type" 0 11 [
    (none, .notion "union_type" 0 9 [
      (none, .notion "type_identifier" 0 1 []),
      (none, .token "|" 1),
      (none, .notion "parenthesized_type" 2 9 [
        (none, .token "(" 2),
        (none, .notion "union_type" 3 8 [
          (none, .notion "type_identifier" 3 4 []),
          (none, .token "|" 4),
          (none, .notion "parenthesized_type" 5 8 [
            (none, .token "(" 5),
            (none, .notion "type_identifier" 6 7 []),
            (none, .token ")" 7)])]),
        (none, .token ")" 8)])]),
    (none, .token "|" 9),
    (none, .notion "type_identifier" 10 11 [])]

/-- The tree of `A|B|C|D`, as if its members stood side by side. -/
def plainUnion : Arena :=
  .ofTree "A|B|C|D" <| .notion "union_type" 0 7 [
    (none, .notion "type_identifier" 0 1 []),
    (none, .notion "type_identifier" 2 3 []),
    (none, .notion "type_identifier" 4 5 []),
    (none, .notion "type_identifier" 6 7 [])]

theorem hasLeaves_nestedUnion : HasLeaves nestedUnion "union_type" 0 [2, 7, 11, 15] where
  isGroup := by decide +kernel
  inhabited := by decide +kernel
  madeOf := by
    have top : nestedUnion.namedChildren 0 = [1, 15] := by decide +kernel
    have left : nestedUnion.namedChildren 1 = [2, 4] := by decide +kernel
    have inner : nestedUnion.namedChildren 6 = [7, 9] := by decide +kernel
    have plain : ∀ id ∈ [1, 2, 6, 7, 11, 15], Bare nestedUnion id id :=
      fun id member => .plain ((by decide +kernel :
        ∀ id ∈ [1, 2, 6, 7, 11, 15], nestedUnion.kind id ≠ "parenthesized_type") id member)
    have single : Bare nestedUnion 9 11 :=
      .within (by decide +kernel) (by decide +kernel) (plain 11 (by decide))
    have wrapped : Bare nestedUnion 4 6 :=
      .within (by decide +kernel) (by decide +kernel) (plain 6 (by decide))
    have innermost : MadeOf nestedUnion "union_type" [7, 9] [7, 11] :=
      .leaf (plain 7 (by decide)) (by decide +kernel) (.leaf single (by decide +kernel) .nil)
    have leftmost : MadeOf nestedUnion "union_type" [2, 4] [2, 7, 11] :=
      .leaf (plain 2 (by decide)) (by decide +kernel)
        (.group wrapped (by decide +kernel) (by simp [inner]) (inner ▸ innermost) .nil)
    rw [top]
    exact .group (plain 1 (by decide)) (by decide +kernel) (by simp [left]) (left ▸ leftmost)
      (.leaf (plain 15 (by decide)) (by decide +kernel) .nil)

theorem hasLeaves_plainUnion : HasLeaves plainUnion "union_type" 0 [1, 2, 3, 4] where
  isGroup := by decide +kernel
  inhabited := by decide +kernel
  madeOf := by
    have top : plainUnion.namedChildren 0 = [1, 2, 3, 4] := by decide +kernel
    have plain : ∀ id ∈ [1, 2, 3, 4], Bare plainUnion id id :=
      fun id member => .plain ((by decide +kernel :
        ∀ id ∈ [1, 2, 3, 4], plainUnion.kind id ≠ "parenthesized_type") id member)
    rw [top]
    exact .leaf (plain 1 (by decide)) (by decide +kernel) <|
      .leaf (plain 2 (by decide)) (by decide +kernel) <|
      .leaf (plain 3 (by decide)) (by decide +kernel) <|
      .leaf (plain 4 (by decide)) (by decide +kernel) .nil

/-- Both unions are written as `A | B | C | D`. -/
theorem groups_join_leaves_of_unions :
    nestedUnion.Constructed ∧ ("union_type", " | ") ∈ groupings ∧
      nestedUnion.kind 0 = "union_type" ∧ nestedUnion.Founded 0 ∧
      resolve nestedUnion 0 = "A | B | C | D" ∧ resolve plainUnion 0 = resolve nestedUnion 0 := by
  have built : nestedUnion.Constructed := constructed_ofTree _ _
  have plainBuilt : plainUnion.Constructed := constructed_ofTree _ _
  have founded : nestedUnion.Founded 0 := (descending_ofTree _ _).founded built.linked 0
  have plainFounded : plainUnion.Founded 0 := (descending_ofTree _ _).founded plainBuilt.linked 0
  have isUnion : nestedUnion.kind 0 = "union_type" := by decide +kernel
  have known : ("union_type", " | ") ∈ groupings := by decide
  have texts : [2, 7, 11, 15].map (resolve nestedUnion) = ["A", "B", "C", "D"] := by
    decide +kernel
  have plainTexts : [1, 2, 3, 4].map (resolve plainUnion) = ["A", "B", "C", "D"] := by
    decide +kernel
  obtain ⟨text, regroup⟩ :=
    (groups_join_leaves built known isUnion founded).2 _ hasLeaves_nestedUnion
  refine ⟨built, known, isUnion, founded, text.trans (by rw [texts]; decide +kernel), ?_⟩
  exact regroup plainUnion 0 _ plainBuilt plainFounded hasLeaves_plainUnion
    (plainTexts.trans texts.symm)

end ExportIndex.TypeScript
