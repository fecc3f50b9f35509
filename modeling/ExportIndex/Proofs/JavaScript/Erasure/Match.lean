import ExportIndex.JavaScript.Erasure
import Mathlib

/-
This file says which texts the rules of the erasure take out: annotations with simple types,
interfaces without inner braces, and type aliases.
-/

namespace ExportIndex.JavaScript.Erasure

open Text

/-- A name of letters, digits, low lines and dollar signs that no digit starts. -/
structure Name where
  first : Char
  rest : List Char
  starts : isNameStart first = true
  continues : ∀ character ∈ rest, isNamePart character = true

def Name.text (name : Name) : List Char := name.first :: name.rest

/-- A run of white space, which may be empty. -/
structure Blanks where
  text : List Char
  blank : ∀ character ∈ text, isBlank character = true

/-- A name, or a name with brackets behind it. -/
structure Member where
  name : Name
  isList : Bool

def Member.text (member : Member) : List Char :=
  member.name.text ++ if member.isList then ['[', ']'] else []

/-- A further member of a union, and the white space on both sides of the bar before it. -/
structure Alternative where
  before : Blanks
  behind : Blanks
  member : Member

def Alternative.text (alternative : Alternative) : List Char :=
  alternative.before.text ++ '|' :: (alternative.behind.text ++ alternative.member.text)

/-- A union of names, with brackets or without them. -/
structure SimpleType where
  first : Member
  others : List Alternative

def SimpleType.text (type : SimpleType) : List Char :=
  type.first.text ++ type.others.flatMap Alternative.text

/-- A colon, a simple type and what ends it. -/
inductive IsAnnotation (terminator : Char) : List Char → Prop
  | of (before : Blanks) (type : SimpleType) (behind : Blanks) :
      IsAnnotation terminator
        (':' :: (before.text ++ (type.text ++ (behind.text ++ [terminator]))))

/-- An interface whose body has no closing brace inside. -/
inductive IsInterface : List Char → Prop
  | of (before : Blanks) (name : Name) (behind : Blanks) (body : List Char)
      (apart : before.text ≠ []) (flat : '\x7d' ∉ body) :
      IsInterface ("interface".toList ++ (before.text ++ (name.text ++
        (behind.text ++ '\x7b' :: (body ++ ['\x7d'])))))

/-- A type alias up to its semicolon. -/
inductive IsAlias : List Char → Prop
  | of (before : Blanks) (name : Name) (behind : Blanks) (body : List Char)
      (apart : before.text ≠ []) (meaningful : body ≠ []) (single : ';' ∉ body) :
      IsAlias ("type".toList ++ (before.text ++ (name.text ++
        (behind.text ++ '=' :: (body ++ [';'])))))

variable {text rest : List Char}

section Found

theorem exists_blanks (text : List Char) :
    ∃ blanks : Blanks, text = blanks.text ++ trimStart text :=
  ⟨⟨text.takeWhile isBlank, fun _ member => List.mem_takeWhile_imp member⟩,
    List.takeWhile_append_dropWhile.symm⟩

theorem afterText?_eq_some_iff {expected : List Char} :
    afterText? expected text = some rest ↔ text = expected ++ rest := by
  induction expected generalizing text with
  | nil => simp [afterText?]
  | cons first expected ih =>
    cases text with
    | nil => simp [afterText?]
    | cons character text =>
      rw [afterText?, List.cons_append, List.cons.injEq]
      split
      · next same => rw [ih, eq_comm, and_iff_right same.symm, eq_comm]
      · next other => simp [Ne.symm other]

theorem afterName?_eq_some (found : afterName? text = some rest) :
    ∃ name : Name, text = name.text ++ rest := by
  cases text with
  | nil => cases found
  | cons first others =>
    rw [afterName?] at found
    split at found
    · next starts =>
      cases found
      refine ⟨⟨first, others.takeWhile isNamePart, starts, ?_⟩, ?_⟩
      · exact fun _ member => List.mem_takeWhile_imp member
      · rw [Name.text, List.cons_append, List.takeWhile_append_dropWhile]
    · cases found

theorem afterSimple?_eq_some (found : afterSimple? text = some rest) :
    ∃ member : Member, text = member.text ++ rest := by
  obtain ⟨behind, named, rfl⟩ := Option.map_eq_some_iff.mp found
  obtain ⟨name, rfl⟩ := afterName?_eq_some named
  cases bracketed : afterText? ['[', ']'] behind with
  | none => exact ⟨⟨name, false⟩, by simp [Member.text]⟩
  | some rest =>
    rw [afterText?_eq_some_iff] at bracketed
    exact ⟨⟨name, true⟩, by simp [Member.text, bracketed]⟩

theorem afterMembers_found (limit : Nat) (text : List Char) :
    ∃ others : List Alternative,
      text = others.flatMap Alternative.text ++ afterMembers limit text := by
  induction limit generalizing text with
  | zero => exact ⟨[], rfl⟩
  | succ limit ih =>
    obtain ⟨before, shown⟩ := exists_blanks text
    rw [afterMembers]
    split
    · next behind barred =>
      obtain ⟨blanks, trimmed⟩ := exists_blanks behind
      split
      · next rest found =>
        obtain ⟨member, isMember⟩ := afterSimple?_eq_some found
        obtain ⟨others, further⟩ := ih rest
        refine ⟨⟨before, blanks, member⟩ :: others, ?_⟩
        rw [List.flatMap_cons, Alternative.text, List.append_assoc, ← further]
        simp [shown.trans (congrArg _ barred), trimmed.trans (congrArg _ isMember)]
      · exact ⟨[], rfl⟩
    · exact ⟨[], rfl⟩

theorem afterAnnotation?_eq_some {terminator : Char}
    (found : afterAnnotation? terminator text = some rest) :
    ∃ matched, IsAnnotation terminator matched ∧ text = matched ++ rest := by
  unfold afterAnnotation? at found
  split at found
  · next typed =>
    split at found
    · cases found
    · next others isFirst =>
      obtain ⟨before, trimmed⟩ := exists_blanks typed
      obtain ⟨first, shown⟩ := afterSimple?_eq_some isFirst
      obtain ⟨members, further⟩ := afterMembers_found others.length others
      obtain ⟨behind, ended⟩ := exists_blanks (afterMembers others.length others)
      rw [afterText?_eq_some_iff] at found
      refine ⟨_, .of before ⟨first, members⟩ behind, ?_⟩
      rw [trimmed, shown, further, ended, found]
      simp [SimpleType.text]
  · cases found

theorem afterBlank?_eq_some (found : afterBlank? text = some rest) :
    ∃ blanks : Blanks, blanks.text ≠ [] ∧ text = blanks.text ++ rest := by
  cases text with
  | nil => cases found
  | cons first others =>
    rw [afterBlank?] at found
    split at found
    · next isFirst =>
      cases found
      obtain ⟨blanks, shown⟩ := exists_blanks others
      refine ⟨⟨first :: blanks.text, ?_⟩, List.cons_ne_nil _ _, congrArg _ shown⟩
      exact List.forall_mem_cons.mpr ⟨isFirst, blanks.blank⟩
    · cases found

/-- What a search for a character goes past does not contain it. -/
theorem exists_body {mark : Char}
    (found : afterText? [mark] (text.dropWhile (· ≠ mark)) = some rest) :
    ∃ body, mark ∉ body ∧ text = body ++ mark :: rest := by
  rw [afterText?_eq_some_iff] at found
  refine ⟨text.takeWhile (· ≠ mark), fun member => ?_, ?_⟩
  · simpa using List.mem_takeWhile_imp member
  · rw [← List.singleton_append, ← found, List.takeWhile_append_dropWhile]

theorem afterInterface?_eq_some (found : afterInterface? text = some rest) :
    ∃ matched, IsInterface matched ∧ text = matched ++ rest := by
  simp only [afterInterface?, Option.bind_eq_bind, Option.bind_eq_some_iff] at found
  obtain ⟨spaced, isWord, named, isBlank, opened, isName, inner, isOpen, closed⟩ := found
  obtain ⟨before, apart, rfl⟩ := afterBlank?_eq_some isBlank
  obtain ⟨name, rfl⟩ := afterName?_eq_some isName
  obtain ⟨behind, trimmed⟩ := exists_blanks opened
  obtain ⟨body, flat, rfl⟩ := exists_body closed
  rw [afterText?_eq_some_iff] at isWord isOpen
  refine ⟨_, .of before name behind body apart flat, ?_⟩
  rw [isWord, trimmed, isOpen]
  simp

theorem afterAlias?_eq_some (found : afterAlias? text = some rest) :
    ∃ matched, IsAlias matched ∧ text = matched ++ rest := by
  simp only [afterAlias?, Option.bind_eq_bind, Option.bind_eq_some_iff] at found
  obtain ⟨spaced, isWord, named, isBlank, equated, isName, defined, isEqual, closed⟩ := found
  obtain ⟨before, apart, rfl⟩ := afterBlank?_eq_some isBlank
  obtain ⟨name, rfl⟩ := afterName?_eq_some isName
  obtain ⟨behind, trimmed⟩ := exists_blanks equated
  rw [afterText?_eq_some_iff] at isWord isEqual
  split at closed
  · cases closed
  · next first others =>
    split at closed
    · cases closed
    · next meaningful =>
      obtain ⟨body, single, rfl⟩ := exists_body closed
      refine ⟨_, .of before name behind (first :: body) apart (List.cons_ne_nil _ _) ?_, ?_⟩
      · simp [single, Ne.symm meaningful]
      · rw [isWord, trimmed, isEqual]
        simp

end Found

section Written

theorem not_blank_of_visible {character : Char} (low : 33 ≤ character.toNat)
    (high : character.toNat ≤ 126) : isBlank character = false := by
  simp only [isBlank, Bool.or_eq_false_iff, Bool.and_eq_false_iff, decide_eq_false_iff_not,
    beq_eq_false_iff_ne]
  omega

theorem visible_of_isNamePart {character : Char} (isPart : isNamePart character = true) :
    33 ≤ character.toNat ∧ character.toNat ≤ 126 := by
  simp only [isNamePart, isNameStart, Char.isAlpha, Char.isUpper, Char.isLower, Char.isDigit,
    Bool.or_eq_true, Bool.and_eq_true, decide_eq_true_eq, beq_iff_eq,
    UInt32.le_iff_toNat_le, ge_iff_le] at isPart
  have code : character.toNat = character.val.toNat := rfl
  rw [code]
  rcases isPart with (((⟨low, high⟩ | ⟨low, high⟩) | rfl) | rfl) | ⟨low, high⟩
  · exact ⟨le_trans (by decide) low, le_trans high (by decide)⟩
  · exact ⟨le_trans (by decide) low, le_trans high (by decide)⟩
  · decide
  · decide
  · exact ⟨le_trans (by decide) low, le_trans high (by decide)⟩

/-- Neither a name nor brackets go on at the start of a text. -/
def Ends (text : List Char) : Prop :=
  ∀ character ∈ text.head?, isNamePart character = false ∧ character ≠ '['

theorem ends_cons {character : Char} (outside : isNamePart character = false)
    (plain : character ≠ '[') (rest : List Char) : Ends (character :: rest) := by
  rintro _ ⟨rfl⟩
  exact ⟨outside, plain⟩

theorem ends_blanks (blanks : Blanks) (ends : Ends rest) : Ends (blanks.text ++ rest) := by
  obtain ⟨characters, blank⟩ := blanks
  cases characters with
  | nil => exact ends
  | cons first others =>
    have isFirst : isBlank first = true := blank first List.mem_cons_self
    refine ends_cons ?_ ?_ _
    · by_contra isPart
      obtain ⟨low, high⟩ := visible_of_isNamePart (Bool.not_eq_false _ ▸ isPart)
      rw [not_blank_of_visible low high] at isFirst
      cases isFirst
    · rintro rfl
      exact absurd isFirst (by decide)

theorem ends_alternatives (others : List Alternative) (ends : Ends rest) :
    Ends (others.flatMap Alternative.text ++ rest) := by
  cases others with
  | nil => exact ends
  | cons first others =>
    have bar (behind : List Char) : Ends ('|' :: behind) := ends_cons (by decide) (by decide) behind
    simpa [Alternative.text] using ends_blanks first.before (bar _)

theorem trimStart_blanks (blanks : Blanks) (rest : List Char) :
    trimStart (blanks.text ++ rest) = trimStart rest :=
  List.dropWhile_append_of_pos blanks.blank

theorem trimStart_cons {first : Char} (solid : isBlank first = false) (rest : List Char) :
    trimStart (first :: rest) = first :: rest :=
  List.dropWhile_cons_of_neg (by simp [solid])

theorem trimStart_name (name : Name) (rest : List Char) :
    trimStart (name.text ++ rest) = name.text ++ rest := by
  have isPart : isNamePart name.first = true := by simp [isNamePart, name.starts]
  obtain ⟨low, high⟩ := visible_of_isNamePart isPart
  exact trimStart_cons (not_blank_of_visible low high) _

theorem afterName?_text (name : Name)
    (ends : ∀ character ∈ rest.head?, isNamePart character = false) :
    afterName? (name.text ++ rest) = some rest := by
  have stops : rest.dropWhile isNamePart = rest := by
    cases rest with
    | nil => rfl
    | cons first others => exact List.dropWhile_cons_of_neg (by simp [ends first rfl])
  rw [Name.text, List.cons_append, afterName?, if_pos name.starts,
    List.dropWhile_append_of_pos name.continues, stops]

theorem afterSimple?_text (member : Member) (ends : Ends rest) :
    afterSimple? (member.text ++ rest) = some rest := by
  obtain ⟨name, isList⟩ := member
  cases isList with
  | true =>
    have bracket : afterName? (name.text ++ ('[' :: ']' :: rest)) = some ('[' :: ']' :: rest) :=
      afterName?_text name (by rintro _ ⟨rfl⟩; decide)
    have shown : (Member.mk name true).text ++ rest = name.text ++ ('[' :: ']' :: rest) := by
      simp [Member.text]
    rw [shown, afterSimple?, bracket]
    simp [afterText?]
  | false =>
    have plain : afterText? ['[', ']'] rest = none := by
      cases rest with
      | nil => rfl
      | cons first others => exact if_neg (ends first rfl).2.symm
    have shown : (Member.mk name false).text ++ rest = name.text ++ rest := by
      simp [Member.text]
    rw [shown, afterSimple?, afterName?_text name fun _ isFirst => (ends _ isFirst).1]
    simp [plain]

theorem afterMembers_text (others : List Alternative) (ends : Ends rest)
    (closed : (trimStart rest).head? ≠ some '|') {limit : Nat} (enough : others.length ≤ limit) :
    afterMembers limit (others.flatMap Alternative.text ++ rest) = rest := by
  induction others generalizing limit with
  | nil =>
    cases limit with
    | zero => rfl
    | succ limit =>
      rw [List.flatMap_nil, List.nil_append, afterMembers]
      split
      · next behind barred => simp [barred] at closed
      · rfl
  | cons first others ih =>
    obtain ⟨limit, rfl⟩ :=
      Nat.exists_eq_add_one_of_ne_zero (Nat.ne_of_gt (Nat.zero_lt_of_lt enough))
    obtain ⟨before, behind, member⟩ := first
    have shown : (Alternative.mk before behind member :: others).flatMap Alternative.text ++ rest =
        before.text ++ ('|' :: (behind.text ++
          (member.text ++ (others.flatMap Alternative.text ++ rest)))) := by
      simp [Alternative.text]
    have trimmed (further : List Char) :
        trimStart (member.text ++ further) = member.text ++ further := by
      rw [Member.text, List.append_assoc]
      exact trimStart_name _ _
    rw [shown, afterMembers, trimStart_blanks, trimStart_cons (by decide)]
    simp only [trimStart_blanks, trimmed, afterSimple?_text member (ends_alternatives others ends)]
    exact ih (Nat.le_of_succ_le_succ enough)

theorem length_le_alternatives (others : List Alternative) :
    others.length ≤ (others.flatMap Alternative.text).length := by
  induction others with
  | nil => rfl
  | cons first others ih =>
    have bar : 0 < first.text.length := by simp [Alternative.text]
    rw [List.flatMap_cons, List.length_append, List.length_cons]
    omega

/-- Behind a colon a simple type is gone past as a whole, and its terminator decides. -/
theorem afterAnnotation?_text (terminator : Char) (before : Blanks) (type : SimpleType)
    (ends : Ends rest) (closed : (trimStart rest).head? ≠ some '|') :
    afterAnnotation? terminator (':' :: (before.text ++ (type.text ++ rest))) =
      afterText? [terminator] (trimStart rest) := by
  have trimmed : trimStart (type.text ++ rest) = type.first.text ++
      (type.others.flatMap Alternative.text ++ rest) := by
    rw [SimpleType.text, Member.text, List.append_assoc, List.append_assoc]
    exact trimStart_name _ _
  have enough : type.others.length ≤ (type.others.flatMap Alternative.text ++ rest).length := by
    rw [List.length_append]
    exact (length_le_alternatives type.others).trans (Nat.le_add_right _ _)
  simp only [afterAnnotation?, trimStart_blanks, trimmed,
    afterSimple?_text type.first (ends_alternatives type.others ends)]
  rw [afterMembers_text type.others ends closed enough]

end Written

end ExportIndex.JavaScript.Erasure
