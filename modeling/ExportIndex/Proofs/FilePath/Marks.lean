import ExportIndex.FilePath
import Mathlib

/-
This file says where paths and names are cut. A reading of signs as other signs that keeps the marks
apart takes a path to one with the same names, each read by itself.
-/

namespace ExportIndex.FilePath

theorem partsAt_eq_splitOn {Sign : Type} [DecidableEq Sign] (separator : Sign)
    (signs : List Sign) : partsAt separator signs = signs.splitOn separator := by
  induction signs with
  | nil => rfl
  | cons sign rest ih =>
    rw [partsAt, ih, List.splitOn_cons_eq_if_modifyHead]
    obtain ⟨part, parts, same⟩ := List.exists_cons_of_ne_nil (List.splitOn_ne_nil separator rest)
    rw [same]
    simp [beq_iff_eq]

section Cuts

variable {Sign : Type} [DecidableEq Sign] {separator : Sign} {signs : List Sign}

theorem partsAt_whole (whole : separator ∉ signs) : partsAt separator signs = [signs] :=
  (partsAt_eq_splitOn separator signs).trans (List.splitOn_eq_singleton whole)

theorem partsAt_cut {front : List Sign} (whole : separator ∉ front) (rest : List Sign) :
    partsAt separator (front ++ separator :: rest) = front :: partsAt separator rest := by
  rw [partsAt_eq_splitOn, partsAt_eq_splitOn, List.splitOn_append_cons_self_of_not_mem whole]

end Cuts

namespace Marks

section Endings

variable {Sign : Type} [DecidableEq Sign] {marks : Marks Sign} {name ending : List Sign}

omit [DecidableEq Sign] in
/-- A name with a dot has a last one. -/
theorem exists_last_dot (dotted : marks.dot ∈ name) :
    ∃ before ending, name = before ++ marks.dot :: ending ∧ marks.dot ∉ ending := by
  obtain ⟨behind, before, reversed, undotted⟩ :=
    List.eq_append_cons_of_mem (List.mem_reverse.mpr dotted)
  refine ⟨before.reverse, behind.reverse, ?_, fun member => undotted (List.mem_reverse.mp member)⟩
  rw [← List.reverse_reverse name, reversed]
  simp

theorem splitAtLastDot_undotted (undotted : marks.dot ∉ name) :
    marks.splitAtLastDot name = (name, none) := by
  simp [splitAtLastDot, undotted]

theorem splitAtLastDot_dotted (before : List Sign) (undotted : marks.dot ∉ ending) :
    marks.splitAtLastDot (before ++ marks.dot :: ending) =
      if before = [] then (marks.dot :: ending, none) else (before, some ending) := by
  have last : ((before ++ marks.dot :: ending).reverse.takeWhile (· ≠ marks.dot)).reverse =
      ending := by
    rw [List.reverse_append, List.reverse_cons, List.append_assoc, List.takeWhile_append_of_pos]
    · simp
    · intro sign member
      rw [decide_eq_true_iff]
      rintro rfl
      exact undotted (List.mem_reverse.mp member)
  have front : (before ++ marks.dot :: ending).take
      ((before ++ marks.dot :: ending).length - ending.length - 1) = before := by
    rw [List.length_append, List.length_cons,
      show before.length + (ending.length + 1) - ending.length - 1 = before.length by omega]
    exact List.take_left
  rw [splitAtLastDot, last, front]
  by_cases hidden : before = [] <;> simp [hidden]

/-- What has an extension has a stem as well. -/
theorem exists_stem {path extension : List Sign}
    (isExtension : marks.extension? path = some extension) :
    ∃ stem, marks.stem? path = some stem ∧ stem ≠ [] := by
  obtain ⟨name, isName, split⟩ := Option.bind_eq_some_iff.mp isExtension
  refine ⟨(marks.splitAtLastDot name).1, by rw [stem?, isName]; rfl, ?_⟩
  by_cases dotted : marks.dot ∈ name
  · obtain ⟨before, ending, rfl, undotted⟩ := exists_last_dot dotted
    rw [splitAtLastDot_dotted before undotted] at split ⊢
    by_cases hidden : before = []
    · rw [if_pos hidden] at split
      cases split
    · rwa [if_neg hidden]
  · rw [splitAtLastDot_undotted dotted] at split
    cases split

end Endings

/-- A reading of signs as other signs is cut where the signs are cut. -/
structure Kept {Sign Other : Type} (marks : Marks Sign) (others : Marks Other)
    (read : List Sign → List Other) : Prop where
  separator : ∀ front rest, read (front ++ marks.separator :: rest) =
    read front ++ others.separator :: read rest
  dot : ∀ front rest, read (front ++ marks.dot :: rest) = read front ++ others.dot :: read rest
  separated : ∀ signs, others.separator ∈ read signs → marks.separator ∈ signs
  dotted : ∀ signs, others.dot ∈ read signs → marks.dot ∈ signs
  nil : ∀ signs, read signs = [] ↔ signs = []

namespace Kept

variable {Sign Other : Type} {marks : Marks Sign} {others : Marks Other}
  {read : List Sign → List Other}

/-- What begins with a dot is read from what begins with a dot. -/
theorem read_eq_dot_iff (kept : Kept marks others read) {signs : List Sign} {tail : List Other} :
    read signs = others.dot :: tail ↔ ∃ rest, signs = marks.dot :: rest ∧ read rest = tail := by
  constructor
  · intro begins
    have dotted := kept.dotted signs (begins ▸ List.mem_cons_self)
    obtain ⟨front, rest, rfl, undotted⟩ := List.eq_append_cons_of_mem dotted
    have undottedRead := mt (kept.dotted front) undotted
    rw [kept.dot] at begins
    cases readFront : read front with
    | nil =>
      rw [readFront] at begins
      rw [(kept.nil front).mp readFront]
      exact ⟨rest, rfl, (List.cons.inj begins).2⟩
    | cons sign more =>
      rw [readFront] at begins undottedRead
      exact absurd ((List.cons.inj begins).1 ▸ List.mem_cons_self) undottedRead
  · rintro ⟨rest, rfl, rfl⟩
    have cut := kept.dot [] rest
    rwa [(kept.nil []).mpr rfl] at cut

theorem read_eq_one_dot (kept : Kept marks others read) {signs : List Sign} :
    read signs = [others.dot] ↔ signs = [marks.dot] := by
  rw [kept.read_eq_dot_iff]
  simp [kept.nil]

theorem read_eq_two_dots (kept : Kept marks others read) {signs : List Sign} :
    read signs = [others.dot, others.dot] ↔ signs = [marks.dot, marks.dot] := by
  rw [kept.read_eq_dot_iff]
  simp [kept.read_eq_one_dot]

variable [DecidableEq Sign] [DecidableEq Other]

theorem partsAt_read (kept : Kept marks others read) (signs : List Sign) :
    partsAt others.separator (read signs) = (partsAt marks.separator signs).map read := by
  induction size : signs.length using Nat.strong_induction_on generalizing signs with
  | h size ih =>
    by_cases cut : marks.separator ∈ signs
    · obtain ⟨front, rest, rfl, whole⟩ := List.eq_append_cons_of_mem cut
      have behind := ih rest.length (by rw [← size, List.length_append, List.length_cons]; omega)
        rest rfl
      rw [kept.separator, partsAt_cut (mt (kept.separated front) whole), partsAt_cut whole, behind]
      rfl
    · rw [partsAt_whole (mt (kept.separated signs) cut), partsAt_whole cut]
      rfl

theorem components_read (kept : Kept marks others read) (path : List Sign) :
    others.components (read path) = (marks.components path).map read := by
  have named : ((fun part => decide (part ≠ []) && decide (part ≠ [others.dot])) ∘ read) =
      fun part => decide (part ≠ []) && decide (part ≠ [marks.dot]) := by
    funext part
    simp [kept.nil, kept.read_eq_one_dot]
  rw [components, components, kept.partsAt_read]
  cases partsAt marks.separator path with
  | nil => rfl
  | cons first rest =>
    simp only [List.map_cons, List.filter_map, named, kept.nil]
    split <;> rfl

theorem fileName?_read (kept : Kept marks others read) (path : List Sign) :
    others.fileName? (read path) = (marks.fileName? path).map read := by
  rw [fileName?, fileName?, kept.components_read, List.getLast?_map]
  cases (marks.components path).getLast? with
  | none => rfl
  | some name =>
    simp only [Option.map_some, kept.read_eq_one_dot, kept.read_eq_two_dots]
    split <;> rfl

theorem splitAtLastDot_read (kept : Kept marks others read) (name : List Sign) :
    others.splitAtLastDot (read name) =
      (marks.splitAtLastDot name).map read (Option.map read) := by
  by_cases dotted : marks.dot ∈ name
  · obtain ⟨before, ending, rfl, undotted⟩ := exists_last_dot dotted
    rw [kept.dot, splitAtLastDot_dotted _ (mt (kept.dotted ending) undotted),
      splitAtLastDot_dotted before undotted]
    by_cases hidden : before = []
    · rw [if_pos hidden, if_pos ((kept.nil before).mpr hidden)]
      exact Prod.ext (kept.read_eq_dot_iff.mpr ⟨ending, rfl, rfl⟩).symm rfl
    · rw [if_neg hidden, if_neg (mt (kept.nil before).mp hidden)]
      rfl
  · rw [splitAtLastDot_undotted dotted, splitAtLastDot_undotted (mt (kept.dotted name) dotted)]
    rfl

theorem extension?_read (kept : Kept marks others read) (path : List Sign) :
    others.extension? (read path) = (marks.extension? path).map read := by
  rw [extension?, extension?, kept.fileName?_read]
  cases marks.fileName? path with
  | none => rfl
  | some name => exact congrArg Prod.snd (kept.splitAtLastDot_read name)

end Kept

end Marks

variable {path : FilePath}

theorem exists_stem {extension : String} (isExtension : path.extension? = some extension) :
    ∃ stem, path.stem? = some stem ∧ stem.toList ≠ [] := by
  obtain ⟨signs, isSigns, rfl⟩ := Option.map_eq_some_iff.mp isExtension
  obtain ⟨stem, isStem, some⟩ := Marks.exists_stem isSigns
  refine ⟨String.ofList stem, by rw [stem?, isStem]; rfl, ?_⟩
  rwa [String.toList_ofList]

theorem hasEnding_iff {endings : List String} : path.hasEnding endings = true ↔
    ∃ extension, path.extension? = some extension ∧ "." ++ extension ∈ endings := by
  rw [hasEnding]
  cases path.extension? <;> simp

end ExportIndex.FilePath
