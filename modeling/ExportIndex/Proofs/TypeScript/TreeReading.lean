import ExportIndex.Proofs.TypeScript.Reading
import Mathlib

/-
This file reads a type as its text says it. Members of unions become terms. An intersection joins
the terms on its sides, and brackets bind to the last factor, whatever parentheses have stood there.
-/

namespace ExportIndex.TypeScript

open Connective Script

section Intercalation

variable {separator : List Char}

/-- A text in the middle can be divided. -/
theorem intercalate_split (before : List (List Char)) (first second : List Char)
    (behind : List (List Char)) :
    separator.intercalate (before ++ (first ++ second) :: behind) =
      separator.intercalate (before ++ [first]) ++ separator.intercalate (second :: behind) := by
  induction before with
  | nil => cases behind <;> simp
  | cons text before inductionHypothesis =>
    have inhabited : before ++ (first ++ second) :: behind ≠ [] := by simp
    have inhabitedBefore : before ++ [first] ≠ [] := by simp
    rw [List.cons_append, List.cons_append, List.intercalate_cons_of_ne_nil inhabited,
      List.intercalate_cons_of_ne_nil inhabitedBefore, inductionHypothesis]
    simp only [List.append_assoc]

theorem intercalate_append {texts others : List (List Char)} (notEmpty : texts ≠ [])
    (othersNotEmpty : others ≠ []) : separator.intercalate (texts ++ others) =
      separator.intercalate texts ++ separator ++ separator.intercalate others := by
  induction texts with
  | nil => exact absurd rfl notEmpty
  | cons text texts inductionHypothesis =>
    cases texts with
    | nil =>
      rw [List.singleton_append, List.intercalate_cons_of_ne_nil othersNotEmpty,
        List.intercalate_singleton]
    | cons next texts =>
      rw [List.cons_append, List.intercalate_cons_of_ne_nil (by simp),
        inductionHypothesis (List.cons_ne_nil _ _),
        List.intercalate_cons_of_ne_nil (List.cons_ne_nil next texts)]
      simp only [List.append_assoc]

theorem intercalate_flatten {groups : List (List (List Char))}
    (notEmpty : ∀ group ∈ groups, group ≠ []) :
    separator.intercalate groups.flatten =
      separator.intercalate (groups.map fun group => separator.intercalate group) := by
  induction groups with
  | nil => rfl
  | cons group groups inductionHypothesis =>
    obtain ⟨here, notEmpty⟩ := List.forall_mem_cons.mp notEmpty
    rw [List.flatten_cons, List.map_cons]
    cases groups with
    | nil => simp
    | cons next groups =>
      have behind : (next :: groups).flatten ≠ [] :=
        List.append_ne_nil_of_left_ne_nil (notEmpty next List.mem_cons_self) _
      rw [intercalate_append here behind, inductionHypothesis notEmpty,
        List.intercalate_cons_of_ne_nil (by simp)]

end Intercalation

section Building

/-- An intersection of what two texts say: it joins the last term of the first and the first one of
the second. -/
def meet : Reading → Reading → Reading
  | [], other => other
  | [last], [] => [last]
  | [last], first :: terms => (last ++ first) :: terms
  | term :: next :: terms, other => term :: meet (next :: terms) other

def meets (readings : List Reading) : Reading := readings.foldr meet []

/-- One more pair of brackets behind a text binds to the last factor of its last term. -/
def bracketed (reading : Reading) : Reading :=
  reading.modifyLast fun term => term.modifyLast fun factor => (factor.1, factor.2 + 1)

theorem meet_concat (terms : Reading) (last first : List Factor) (behind : Reading) :
    meet (terms ++ [last]) (first :: behind) = terms ++ (last ++ first) :: behind := by
  induction terms with
  | nil => rfl
  | cons term terms inductionHypothesis =>
    cases terms with
    | nil => rfl
    | cons next terms => exact congrArg (List.cons term) inductionHypothesis

theorem meet_nil (reading : Reading) : meet reading [] = reading := by
  induction reading with
  | nil => rfl
  | cons term terms inductionHypothesis =>
    cases terms with
    | nil => rfl
    | cons next terms => exact congrArg (List.cons term) inductionHypothesis

theorem bracketed_concat (terms : Reading) (factors : List Factor) (core : Core) (count : Nat) :
    bracketed (terms ++ [factors ++ [(core, count)]]) =
      terms ++ [factors ++ [(core, count + 1)]] := by
  rw [bracketed, List.modifyLast_concat, List.modifyLast_concat]

/-- A filled reading ends with a factor. -/
theorem Filled.exists_last {reading : Reading} (filled : Filled reading) :
    ∃ terms factors core count, reading = terms ++ [factors ++ [(core, count)]] := by
  rcases List.eq_nil_or_concat reading with empty | ⟨terms, last, rfl⟩
  · exact absurd empty filled.notEmpty
  · rcases List.eq_nil_or_concat last with empty | ⟨factors, ⟨core, count⟩, rfl⟩
    · exact absurd empty (filled.terms last (by simp))
    · exact ⟨terms, factors, core, count, by simp⟩

theorem text_bracketed {reading : Reading} (filled : Filled reading) :
    (bracketed reading).text = reading.text ++ ['[', ']'] := by
  obtain ⟨terms, factors, core, count, rfl⟩ := filled.exists_last
  have more : factorText (core, count + 1) = factorText (core, count) ++ ['[', ']'] := by
    simp [factorText, brackets, List.replicate_succ']
  have last : termText (factors ++ [(core, count + 1)]) =
      termText (factors ++ [(core, count)]) ++ ['[', ']'] := by
    rw [termText, termText, List.map_append, List.map_append, List.map_singleton, more,
      intercalate_split, List.intercalate_singleton]
    rfl
  rw [bracketed_concat, Reading.text, Reading.text, List.map_append, List.map_append,
    List.map_singleton, last, intercalate_split, List.intercalate_singleton]
  rfl

theorem text_meet {reading other : Reading} (filled : Filled reading) (otherFilled : Filled other) :
    (meet reading other).text = reading.text ++ intersection.characters ++ other.text := by
  obtain ⟨first, behind, rfl⟩ := List.exists_cons_of_ne_nil otherFilled.notEmpty
  rcases List.eq_nil_or_concat reading with empty | ⟨terms, last, rfl⟩
  · exact absurd empty filled.notEmpty
  have joined : termText (last ++ first) =
      termText last ++ (intersection.characters ++ termText first) := by
    rw [termText, List.map_append, intercalate_append, List.append_assoc]
    · rfl
    · simpa using filled.terms last (by simp)
    · simpa using otherFilled.terms first (by simp)
  rw [List.concat_eq_append, meet_concat, Reading.text, List.map_append, List.map_cons, joined,
    intercalate_split]
  have goesOn : union.characters.intercalate
      ((intersection.characters ++ termText first) :: behind.map termText) =
        intersection.characters ++
          union.characters.intercalate (termText first :: behind.map termText) :=
    (intercalate_split [] _ _ _).trans (by rw [List.nil_append, List.intercalate_singleton])
  rw [goesOn, List.append_assoc, Reading.text, Reading.text, List.map_append]
  rfl

theorem bracketed_single (core : Core) (count : Nat) :
    bracketed [[(core, count)]] = [[(core, count + 1)]] :=
  bracketed_concat [] [] core count

theorem meets_single (reading : Reading) : meets [reading] = reading := meet_nil reading

/-- An intersection of single terms is a single term. -/
theorem meets_terms {readings : List Reading} (notEmpty : readings ≠ [])
    (each : ∀ reading ∈ readings, reading = [reading.flatten]) :
    meets readings = [(readings.map List.flatten).flatten] := by
  induction readings with
  | nil => exact absurd rfl notEmpty
  | cons reading readings inductionHypothesis =>
    obtain ⟨here, each⟩ := List.forall_mem_cons.mp each
    cases readings with
    | nil =>
      rw [meets_single, here]
      simp
    | cons next readings =>
      rw [meets, List.foldr_cons, ← meets, inductionHypothesis (List.cons_ne_nil _ _) each, here]
      simp [meet]

theorem valid_single {core : Core} (valid : core.Valid) (count : Nat) :
    Reading.Valid [[(core, count)]] := by
  refine ⟨⟨by simp, by simp⟩, ?_⟩
  simpa using valid

theorem Reading.Valid.bracketed {reading : Reading} (valid : reading.Valid) :
    (bracketed reading).Valid := by
  obtain ⟨terms, factors, core, count, rfl⟩ := valid.filled.exists_last
  rw [bracketed_concat]
  refine ⟨⟨by simp, fun term member => ?_⟩, fun term member factor isFactor => ?_⟩
  · rcases List.mem_append.mp member with before | last
    · exact valid.filled.terms term (List.mem_append_left _ before)
    · simp [List.mem_singleton.mp last]
  · rcases List.mem_append.mp member with before | last
    · exact valid.each term (List.mem_append_left _ before) factor isFactor
    · have each := valid.each _ (List.mem_append_right _ (List.mem_singleton_self _))
      obtain rfl := List.mem_singleton.mp last
      rcases List.mem_append.mp isFactor with inside | isLast
      · exact each factor (List.mem_append_left _ inside)
      · obtain rfl := List.mem_singleton.mp isLast
        exact each (core, count) (by simp)

theorem Reading.Valid.meet {reading other : Reading} (valid : reading.Valid)
    (otherValid : other.Valid) : (meet reading other).Valid := by
  obtain ⟨first, behind, rfl⟩ := List.exists_cons_of_ne_nil otherValid.filled.notEmpty
  rcases List.eq_nil_or_concat reading with empty | ⟨terms, last, rfl⟩
  · exact absurd empty valid.filled.notEmpty
  rw [List.concat_eq_append] at valid ⊢
  rw [meet_concat]
  have lastMember : last ∈ terms ++ [last] := by simp
  refine ⟨⟨by simp, fun term member => ?_⟩, fun term member factor isFactor => ?_⟩
  · rcases List.mem_append.mp member with before | member
    · exact valid.filled.terms term (List.mem_append_left _ before)
    · rcases List.mem_cons.mp member with rfl | member
      · exact List.append_ne_nil_of_left_ne_nil (valid.filled.terms last lastMember) _
      · exact otherValid.filled.terms term (List.mem_cons_of_mem _ member)
  · rcases List.mem_append.mp member with before | member
    · exact valid.each term (List.mem_append_left _ before) factor isFactor
    · rcases List.mem_cons.mp member with rfl | member
      · rcases List.mem_append.mp isFactor with inLast | inFirst
        · exact valid.each last lastMember factor inLast
        · exact otherValid.each first List.mem_cons_self factor inFirst
      · exact otherValid.each term (List.mem_cons_of_mem _ member) factor isFactor

theorem valid_meets {readings : List Reading} (notEmpty : readings ≠ [])
    (valid : ∀ reading ∈ readings, reading.Valid) : (meets readings).Valid ∧
      (meets readings).text =
        intersection.characters.intercalate (readings.map Reading.text) := by
  induction readings with
  | nil => exact absurd rfl notEmpty
  | cons reading readings inductionHypothesis =>
    obtain ⟨here, valid⟩ := List.forall_mem_cons.mp valid
    rw [meets, List.foldr_cons, ← meets]
    cases readings with
    | nil =>
      rw [meets, List.foldr_nil, meet_nil]
      exact ⟨here, by simp⟩
    | cons next readings =>
      obtain ⟨behind, text⟩ := inductionHypothesis (List.cons_ne_nil _ _) valid
      refine ⟨here.meet behind, ?_⟩
      rw [text_meet here.filled behind.filled, text]
      exact (List.intercalate_cons_of_ne_nil (by simp)).symm

theorem valid_flatten {readings : List Reading} (notEmpty : readings ≠ [])
    (valid : ∀ reading ∈ readings, reading.Valid) : Reading.Valid readings.flatten ∧
      Reading.text readings.flatten =
        union.characters.intercalate (readings.map Reading.text) := by
  have filled (reading : Reading) (member : reading ∈ readings) : reading ≠ [] :=
    (valid reading member).filled.notEmpty
  refine ⟨⟨⟨?_, ?_⟩, ?_⟩, ?_⟩
  · obtain ⟨first, behind, rfl⟩ := List.exists_cons_of_ne_nil notEmpty
    exact List.append_ne_nil_of_left_ne_nil (filled first List.mem_cons_self) _
  · intro term member
    obtain ⟨reading, isReading, isTerm⟩ := List.mem_flatten.mp member
    exact (valid reading isReading).filled.terms term isTerm
  · intro term member
    obtain ⟨reading, isReading, isTerm⟩ := List.mem_flatten.mp member
    exact (valid reading isReading).each term isTerm
  · rw [Reading.text, List.map_flatten, intercalate_flatten, List.map_map]
    · rfl
    · intro group member
      obtain ⟨reading, isReading, rfl⟩ := List.mem_map.mp member
      simpa using filled reading isReading

/-- What the text of a tree says. -/
def TypeTree.reading : TypeTree → Reading
  | predefined name => [[(.word (Text.lowerCase name), 0)]]
  | identifier name => [[(.word name, 0)]]
  | generic name arguments => [[(.generic name (arguments.map reading), 0)]]
  | array element => bracketed element.reading
  | group .union members => (members.map reading).flatten
  | group .intersection members => meets (members.map reading)
  | tuple members => [[(.tuple (members.map reading), 0)]]
  | parenthesized inner => inner.reading

namespace TypeTree

variable {tree : TypeTree}

theorem reading_single (connective : Connective) (member : TypeTree) :
    (group connective [member]).reading = member.reading := by
  cases connective with
  | union => simp [reading]
  | intersection => rw [reading, List.map_singleton, meets_single]

theorem valid_readings {trees : List TypeTree}
    (each : ∀ tree ∈ trees, tree.reading.Valid ∧ tree.text.toList = tree.reading.text) :
    ∀ item ∈ trees.map reading, Reading.Valid item :=
  List.forall_mem_map.mpr fun tree member => (each tree member).1

theorem toList_texts {trees : List TypeTree}
    (each : ∀ tree ∈ trees, tree.reading.Valid ∧ tree.text.toList = tree.reading.text) :
    (trees.map text).map String.toList = (trees.map reading).map Reading.text := by
  rw [List.map_map, List.map_map]
  exact List.map_congr_left fun tree member => (each tree member).2

theorem text_core (core : Core) : Reading.text [[(core, 0)]] = core.text := by
  simp [Reading.text, termText, factorText, brackets]

/-- What a text says is valid, and the text says it. -/
theorem reading_spec (proper : tree.Proper) :
    tree.reading.Valid ∧ tree.text.toList = tree.reading.text := by
  induction proper with
  | predefined known =>
    rw [reading, text, text_core, Core.text_word]
    exact ⟨valid_single (.word (.predefined known rfl)) 0, rfl⟩
  | identifier isName other =>
    rw [reading, text, text_core, Core.text_word]
    exact ⟨valid_single (.word (.identifier isName other)) 0, rfl⟩
  | generic isName notEmpty _ inductionHypothesis =>
    have valid := valid_readings inductionHypothesis
    rw [reading, text, text_core, ← List.append_nil (Core.text _), Core.text_generic, listText,
      ← toList_texts inductionHypothesis]
    refine ⟨valid_single (.generic isName (by simpa using notEmpty) (fun item member =>
      (valid item member).filled) fun item member => (valid item member).each) 0, ?_⟩
    simp [String.toList_append, comma]
  | array _ inductionHypothesis =>
    obtain ⟨valid, same⟩ := inductionHypothesis
    rw [reading, text, text_bracketed valid.filled, ← same]
    exact ⟨valid.bracketed, by simp⟩
  | @group connective members notEmpty _ inductionHypothesis =>
    have valid := valid_readings inductionHypothesis
    have inhabited : members.map reading ≠ [] := by simpa using notEmpty
    rw [text, String.toList_intercalate, toList_separator, toList_texts inductionHypothesis]
    cases connective with
    | union =>
      rw [reading]
      exact (valid_flatten inhabited valid).imp_right Eq.symm
    | intersection =>
      rw [reading]
      exact (valid_meets inhabited valid).imp_right Eq.symm
  | tuple _ inductionHypothesis =>
    have valid := valid_readings inductionHypothesis
    rw [reading, text, text_core, ← List.append_nil (Core.text _), Core.text_tuple, listText,
      ← toList_texts inductionHypothesis]
    refine ⟨valid_single (.tuple (fun item member => (valid item member).filled)
      fun item member => (valid item member).each) 0, ?_⟩
    simp [String.toList_append, comma]
  | parenthesized _ inductionHypothesis =>
    rw [reading, text]
    exact inductionHypothesis

theorem text_eq_iff {other : TypeTree} (proper : tree.Proper) (otherProper : other.Proper) :
    tree.text = other.text ↔ tree.reading = other.reading := by
  obtain ⟨valid, same⟩ := reading_spec proper
  obtain ⟨otherValid, otherSame⟩ := reading_spec otherProper
  rw [← String.toList_inj, same, otherSame, Reading.text_inj valid otherValid]

end TypeTree

end Building

end ExportIndex.TypeScript
