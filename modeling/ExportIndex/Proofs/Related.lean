import Mathlib.Data.List.Forall2
import Mathlib.Tactic

/-
This file relates what is found on two sides: options and lists whose values are related one by
one, and the same choice made on both sides.
-/

namespace ExportIndex

section Option

variable {A B C D : Type} {related : A → B → Prop} {first : Option A} {second : Option B}

theorem exists_of_rel_some {value : B} (rel : Option.Rel related first (some value)) :
    ∃ own, first = some own ∧ related own value := by
  cases rel with
  | some same => exact ⟨_, rfl, same⟩

theorem exists_of_some_rel {value : A} (rel : Option.Rel related (some value) second) :
    ∃ own, second = some own ∧ related value own := by
  cases rel with
  | some same => exact ⟨_, rfl, same⟩

theorem eq_none_of_rel_none (rel : Option.Rel related first (none : Option B)) : first = none := by
  cases rel
  rfl

theorem rel_eq_refl (value : Option A) : Option.Rel Eq value value := by
  cases value with
  | none => exact .none
  | some _ => exact .some rfl

theorem rel_or {others : Option A} {twins : Option B} (rel : Option.Rel related first second)
    (rest : Option.Rel related others twins) :
    Option.Rel related (first.or others) (second.or twins) := by
  cases rel with
  | none => exact rest
  | some same => exact .some same

theorem rel_bind {other : C → D → Prop} {next : A → Option C} {twin : B → Option D}
    (rel : Option.Rel related first second)
    (step : ∀ value own, related value own → Option.Rel other (next value) (twin own)) :
    Option.Rel other (first.bind next) (second.bind twin) := by
  cases rel with
  | none => exact .none
  | some same => exact step _ _ same

theorem rel_filter {test : A → Bool} {twin : B → Bool} (rel : Option.Rel related first second)
    (same : ∀ value own, related value own → test value = twin own) :
    Option.Rel related (first.filter test) (second.filter twin) := by
  cases rel with
  | none => exact .none
  | some here =>
    rw [Option.filter_some, Option.filter_some, same _ _ here]
    split
    · exact .some here
    · exact .none

theorem isSome_eq_of_rel (rel : Option.Rel related first second) :
    first.isSome = second.isSome := by
  cases rel <;> rfl

theorem elim_eq_of_rel {whenNone : C} {next : A → C} {twin : B → C}
    (rel : Option.Rel related first second)
    (same : ∀ value own, related value own → next value = twin own) :
    first.elim whenNone next = second.elim whenNone twin := by
  cases rel with
  | none => rfl
  | some here => exact same _ _ here

theorem bind_eq_of_rel {next : A → Option C} {twin : B → Option C}
    (rel : Option.Rel related first second)
    (same : ∀ value own, related value own → next value = twin own) :
    first.bind next = second.bind twin := by
  cases rel with
  | none => rfl
  | some here => exact same _ _ here

theorem any_eq_of_rel {test : A → Bool} {twin : B → Bool} (rel : Option.Rel related first second)
    (same : ∀ value own, related value own → test value = twin own) :
    first.any test = second.any twin := by
  cases rel with
  | none => rfl
  | some here => exact same _ _ here

theorem map_eq_of_rel {value : A → C} {twin : B → C} (rel : Option.Rel related first second)
    (same : ∀ here there, related here there → value here = twin there) :
    first.map value = second.map twin := by
  cases rel with
  | none => rfl
  | some here => exact congrArg _ (same _ _ here)

end Option

section List

variable {A B C : Type} {related : A → B → Prop} {first : List A} {second : List B}

theorem rel_find? {test : A → Bool} {twin : B → Bool} (rel : List.Forall₂ related first second)
    (same : ∀ value own, related value own → test value = twin own) :
    Option.Rel related (first.find? test) (second.find? twin) := by
  induction rel with
  | nil => exact .none
  | cons here _ ih =>
    rw [List.find?_cons, List.find?_cons, same _ _ here]
    split
    · exact .some here
    · exact ih

theorem rel_head? (rel : List.Forall₂ related first second) :
    Option.Rel related first.head? second.head? := by
  cases rel with
  | nil => exact .none
  | cons here _ => exact .some here

theorem forall₂_toList {value : Option A} {twin : Option B}
    (rel : Option.Rel related value twin) :
    List.Forall₂ related value.toList twin.toList := by
  cases rel with
  | none => exact .nil
  | some same => exact .cons same .nil

theorem any_eq_of_forall₂ {test : A → Bool} {twin : B → Bool}
    (rel : List.Forall₂ related first second)
    (same : ∀ value own, related value own → test value = twin own) :
    first.any test = second.any twin := by
  induction rel with
  | nil => rfl
  | cons here _ ih => rw [List.any_cons, List.any_cons, same _ _ here, ih]

theorem map_eq_of_forall₂ {value : A → C} {twin : B → C} (rel : List.Forall₂ related first second)
    (same : ∀ here there, related here there → value here = twin there) :
    first.map value = second.map twin := by
  induction rel with
  | nil => rfl
  | cons here _ ih => rw [List.map_cons, List.map_cons, same _ _ here, ih]

theorem flatMap_eq_of_forall₂ {next : A → List C} {twin : B → List C}
    (rel : List.Forall₂ related first second)
    (same : ∀ value own, related value own → next value = twin own) :
    first.flatMap next = second.flatMap twin := by
  induction rel with
  | nil => rfl
  | cons here _ ih => rw [List.flatMap_cons, List.flatMap_cons, same _ _ here, ih]

theorem filterMap_eq_of_forall₂ {next : A → Option C} {twin : B → Option C}
    (rel : List.Forall₂ related first second)
    (same : ∀ value own, related value own → next value = twin own) :
    first.filterMap next = second.filterMap twin := by
  induction rel with
  | nil => rfl
  | cons here _ ih => rw [List.filterMap_cons, List.filterMap_cons, same _ _ here, ih]

/-- What two lists are to two others that have equal images is what they are to each other. -/
theorem forall₂_of_map_eq {S T : Type} {other : S → T → Prop} {image : B → C} {twin : T → C}
    {firsts : List S} {seconds : List T} (rel : List.Forall₂ related first second)
    (rest : List.Forall₂ other firsts seconds)
    (same : second.map image = seconds.map twin) :
    List.Forall₂ (fun value mate => ∃ own ∈ second, ∃ its ∈ seconds,
      related value own ∧ other mate its ∧ image own = twin its) first firsts := by
  induction rel generalizing firsts seconds with
  | nil =>
    cases rest with
    | nil => exact .nil
    | cons => cases same
  | cons here _ ih =>
    cases rest with
    | nil => cases same
    | cons there rest =>
      obtain ⟨head, tail⟩ := List.cons.inj same
      refine .cons ⟨_, List.mem_cons_self, _, List.mem_cons_self, here, there, head⟩ ?_
      refine (ih rest tail).imp fun value mate => ?_
      rintro ⟨own, member, its, itsMember, related⟩
      exact ⟨own, List.mem_cons_of_mem _ member, its, List.mem_cons_of_mem _ itsMember, related⟩

theorem flatMap_eq_of_map_eq {S : Type} {image : A → C} {twin : B → C} {next : A → List S}
    {step : B → List S} (same : first.map image = second.map twin)
    (agree : ∀ value ∈ first, ∀ own ∈ second, image value = twin own → next value = step own) :
    first.flatMap next = second.flatMap step := by
  induction first generalizing second with
  | nil =>
    cases second with
    | nil => rfl
    | cons => cases same
  | cons value rest ih =>
    cases second with
    | nil => cases same
    | cons own others =>
      obtain ⟨head, tail⟩ := List.cons.inj same
      rw [List.flatMap_cons, List.flatMap_cons,
        agree value List.mem_cons_self own List.mem_cons_self head, ih tail]
      exact fun value member own others => agree value (List.mem_cons_of_mem _ member) own
        (List.mem_cons_of_mem _ others)

/-- Items that give nothing may be left out. -/
theorem flatMap_eq_flatMap_filter (keep : A → Bool) (next : A → List C) (items : List A)
    (silent : ∀ item ∈ items, keep item = false → next item = []) :
    items.flatMap next = (items.filter keep).flatMap next := by
  induction items with
  | nil => rfl
  | cons item rest ih =>
    have others := ih fun other member => silent other (List.mem_cons_of_mem _ member)
    rw [List.flatMap_cons, List.filter_cons, others]
    split
    · rw [List.flatMap_cons]
    · next drop => rw [silent item List.mem_cons_self (by simpa using drop), List.nil_append]

end List

/-- What goes down two sides step by step agrees where these are related within a bound, at all
depths that reach the bound, if it agrees there as soon as it does one step further down. -/
theorem descend_of_related {A B : Type} (related : Nat → A → B → Prop)
    {motive : Nat → Nat → A → B → Prop}
    (positive : ∀ {bound value own}, related bound value own → 0 < bound)
    (step : ∀ {bound value own} depth limit, related (bound + 1) value own →
      (∀ {next other}, related bound next other → motive depth limit next other) →
        motive (depth + 1) (limit + 1) value own)
    {bound depth limit : Nat} {value : A} {own : B} (here : related bound value own)
    (reaches : bound ≤ depth) (enough : bound ≤ limit) : motive depth limit value own := by
  induction bound generalizing depth limit value own with
  | zero => exact absurd (positive here) (Nat.lt_irrefl 0)
  | succ bound ih =>
    obtain ⟨depth, rfl⟩ := Nat.exists_eq_succ_of_ne_zero (Nat.ne_zero_of_lt reaches)
    obtain ⟨limit, rfl⟩ := Nat.exists_eq_succ_of_ne_zero (Nat.ne_zero_of_lt enough)
    exact step depth limit here fun below =>
      ih below (Nat.le_of_succ_le_succ reaches) (Nat.le_of_succ_le_succ enough)

end ExportIndex
