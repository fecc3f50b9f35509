import ExportIndex.Proofs.TypeScript.TypeTree
import Mathlib

/-
This file reads the text of a type as the text tells it: brackets bind to what stands right before
them, and intersections bind tighter than unions. A text has one reading.
-/

namespace ExportIndex.TypeScript

/-- What the brackets of arrays may follow. The arguments of generic types and the members of tuples
are readings: unions of intersections of cores with a number of brackets behind each. -/
inductive Core where
  | word (text : String)
  | generic (name : String) (arguments : List (List (List (Core × Nat))))
  | tuple (members : List (List (List (Core × Nat))))

/-- A core and the number of brackets behind it. -/
abbrev Factor := Core × Nat

/-- What a text says: a union of intersections of factors. -/
abbrev Reading := List (List Factor)

def brackets (count : Nat) : List Char := (List.replicate count ['[', ']']).flatten

def comma : List Char := [',', ' ']

namespace Connective

def characters : Connective → List Char
  | union => [' ', '|', ' ']
  | intersection => [' ', '&', ' ']

theorem toList_separator (connective : Connective) :
    connective.separator.toList = connective.characters := by
  cases connective <;> rfl

theorem exists_sign (connective : Connective) :
    ∃ sign ∈ delimiters, connective.characters = [' ', sign, ' '] := by
  cases connective
  · exact ⟨'|', by decide, rfl⟩
  · exact ⟨'&', by decide, rfl⟩

end Connective

open Connective Script

theorem sizeOf_core_lt {readings : List Reading} {reading : Reading} {term : List Factor}
    {factor : Factor} (isReading : reading ∈ readings) (isTerm : term ∈ reading)
    (isFactor : factor ∈ term) : sizeOf factor.1 < sizeOf readings := by
  have outer := List.sizeOf_lt_of_mem isReading
  have middle := List.sizeOf_lt_of_mem isTerm
  have inner := List.sizeOf_lt_of_mem isFactor
  have within : sizeOf factor.1 < sizeOf factor := by
    cases factor
    simp only [Prod.mk.sizeOf_spec]
    omega
  omega

def Core.text : Core → List Char
  | word text => text.toList
  | generic name arguments =>
    name.toList ++ '<' :: comma.intercalate (arguments.map fun reading =>
      union.characters.intercalate (reading.map fun term =>
        intersection.characters.intercalate (term.map fun factor =>
          factor.1.text ++ brackets factor.2))) ++ ['>']
  | tuple members =>
    '[' :: comma.intercalate (members.map fun reading =>
      union.characters.intercalate (reading.map fun term =>
        intersection.characters.intercalate (term.map fun factor =>
          factor.1.text ++ brackets factor.2))) ++ [']']
decreasing_by
  all_goals
    have below := sizeOf_core_lt ‹_› ‹_› ‹_›
    simp only [Core.generic.sizeOf_spec, Core.tuple.sizeOf_spec]
    omega

def factorText (factor : Factor) : List Char := factor.1.text ++ brackets factor.2

def termText (term : List Factor) : List Char :=
  intersection.characters.intercalate (term.map factorText)

def Reading.text (reading : Reading) : List Char :=
  union.characters.intercalate (reading.map termText)

/-- The texts of readings in angle or square brackets. -/
def listText (readings : List Reading) : List Char := comma.intercalate (readings.map Reading.text)

theorem Core.text_word (text : String) : (word text).text = text.toList := by
  rw [Core.text]

theorem Core.text_generic (name : String) (arguments : List Reading) (rest : List Char) :
    (generic name arguments).text ++ rest =
      name.toList ++ '<' :: (listText arguments ++ '>' :: rest) := by
  have whole : (generic name arguments).text =
      name.toList ++ '<' :: listText arguments ++ ['>'] := by
    rw [Core.text]
    rfl
  simp [whole]

theorem Core.text_tuple (members : List Reading) (rest : List Char) :
    (tuple members).text ++ rest = '[' :: (listText members ++ ']' :: rest) := by
  have whole : (tuple members).text = '[' :: listText members ++ [']'] := by
    rw [Core.text]
    rfl
  simp [whole]

section Validity

/-- Readings have members, and so have their terms. -/
structure Filled (reading : Reading) : Prop where
  notEmpty : reading ≠ []
  terms : ∀ term ∈ reading, term ≠ []

/-- Characters between which a text is not divided. There may be blanks inside. -/
structure IsWord (characters : List Char) : Prop where
  notEmpty : characters ≠ []
  solid : ∀ character ∈ characters, character ∉ delimiters
  ends : characters.getLast? ≠ some ' '

theorem IsName.isWord {name : String} (isName : IsName name) : IsWord name.toList where
  notEmpty := isName.notEmpty
  solid character member := (isName.solid character member).2
  ends last := by
    have solid := (isName.solid ' ' (List.mem_of_getLast? last)).1
    simp [Text.isBlank] at solid

/-- The delimiters are not among some characters. -/
def solid (characters : List Char) : Bool :=
  characters.all fun character => !delimiters.contains character

theorem solid_iff {characters : List Char} :
    solid characters = true ↔ ∀ character ∈ characters, character ∉ delimiters := by
  simp [solid]

theorem solid_append (first second : List Char) :
    solid (first ++ second) = (solid first && solid second) :=
  List.all_append

theorem solid_of_blank {blanks : List Char}
    (blank : ∀ character ∈ blanks, Text.isBlank character = true) : solid blanks = true := by
  have none : (delimiters.all fun delimiter => !Text.isBlank delimiter) = true := by
    decide +kernel
  rw [solid_iff]
  intro character member isDelimiter
  have printed := List.all_eq_true.mp none character isDelimiter
  rw [blank character member] at printed
  cases printed

theorem isWord_of_isPredefined {name : String} (known : IsPredefined name) :
    IsWord (Text.lowerCase name).toList := by
  cases known with
  | word known =>
    have each : ∀ word ∈ predefinedNames, word.toList ≠ [] ∧ solid word.toList = true ∧
        word.toList.getLast? ≠ some ' ' := by
      decide +kernel
    obtain ⟨notEmpty, isSolid, ends⟩ := each _ known
    exact ⟨notEmpty, solid_iff.mp isSolid, ends⟩
  | @uniqueSymbol blanks _ blank known =>
    have first : solid "unique".toList = true := by decide +kernel
    have second : solid "symbol".toList = true := by decide +kernel
    have last : "symbol".toList.getLast? = some 'l' := by decide +kernel
    rw [known]
    refine ⟨by simp, solid_iff.mp ?_, ?_⟩
    · rw [solid_append, solid_append, first, solid_of_blank blank, second]
      rfl
    · rw [List.getLast?_append, last, Option.some_or]
      decide

theorem IsTypeWord.isWord {text : String} (isTypeWord : IsTypeWord text) : IsWord text.toList := by
  cases isTypeWord with
  | predefined known same => exact same ▸ isWord_of_isPredefined known
  | identifier isName => exact isName.isWord

inductive Core.Valid : Core → Prop
  | word {text : String} (isTypeWord : IsTypeWord text) : Valid (.word text)
  | generic {name : String} {arguments : List Reading} (isName : IsName name)
      (notEmpty : arguments ≠ []) (filled : ∀ reading ∈ arguments, Filled reading)
      (each : ∀ reading ∈ arguments, ∀ term ∈ reading, ∀ factor ∈ term, Valid factor.1) :
      Valid (.generic name arguments)
  | tuple {members : List Reading} (filled : ∀ reading ∈ members, Filled reading)
      (each : ∀ reading ∈ members, ∀ term ∈ reading, ∀ factor ∈ term, Valid factor.1) :
      Valid (.tuple members)

structure Reading.Valid (reading : Reading) : Prop where
  filled : Filled reading
  each : ∀ term ∈ reading, ∀ factor ∈ term, factor.1.Valid

end Validity

section Separation

/-- The text of an item is told from those of all others when rests of some kind stand behind. -/
def Separable {A : Type} (text : A → List Char) (valid : A → Prop) (ends : List Char → Prop)
    (item : A) : Prop :=
  ∀ ⦃other rest behind⦄, valid other → ends rest → ends behind →
    text item ++ rest = text other ++ behind → item = other ∧ rest = behind

/-- Items with a separator in between are separable if the items are and the separator does not
stand behind the last of them. -/
theorem separable_intercalate {A : Type} {text : A → List Char} {valid : A → Prop}
    {inner outer : List Char → Prop} {separator : List Char} {items : List A}
    (goesOn : ∀ rest, inner (separator ++ rest))
    (closes : ∀ {rest}, outer rest → inner rest ∧ ¬ separator <+: rest) (notEmpty : items ≠ [])
    (each : ∀ item ∈ items, Separable text valid inner item) :
    Separable (fun items => separator.intercalate (items.map text))
      (fun others => others ≠ [] ∧ ∀ other ∈ others, valid other) outer items := by
  intro others rest behind othersValid ends endsBehind same
  induction items generalizing others with
  | nil => exact absurd rfl notEmpty
  | cons item items inductionHypothesis =>
    obtain ⟨othersFilled, othersValid⟩ := othersValid
    obtain ⟨other, others, rfl⟩ := List.exists_cons_of_ne_nil othersFilled
    obtain ⟨otherValid, restValid⟩ := List.forall_mem_cons.mp othersValid
    have here := each item List.mem_cons_self
    cases items with
    | nil =>
      cases others with
      | nil =>
        obtain ⟨rfl, rfl⟩ := here otherValid (closes ends).1 (closes endsBehind).1
          (by simpa using same)
        exact ⟨rfl, rfl⟩
      | cons next others =>
        have split : item = other ∧ rest = _ :=
          here otherValid (closes ends).1 (goesOn _) (by simpa using same)
        exact absurd ⟨_, split.2.symm⟩ (closes ends).2
    | cons second items =>
      cases others with
      | nil =>
        have split : item = other ∧ _ = behind :=
          here otherValid (goesOn _) (closes endsBehind).1 (by simpa using same)
        exact absurd ⟨_, split.2⟩ (closes endsBehind).2
      | cons next others =>
        obtain ⟨rfl, tails⟩ := here otherValid (goesOn _) (goesOn _) (by simpa using same)
        obtain ⟨tail, rfl⟩ := inductionHypothesis (List.cons_ne_nil _ _)
          (fun item member => each item (List.mem_cons_of_mem _ member))
          ⟨List.cons_ne_nil _ _, restValid⟩ (by simpa using List.append_cancel_left tails)
        exact ⟨congrArg _ tail, rfl⟩

end Separation

section Rests

variable {rest behind : List Char}

/-- A rest closes what is before it: it is empty, or goes on as lists do behind a member. -/
def Closes (rest : List Char) : Prop := ∀ character ∈ rest.head?, character ∈ [',', '>', ']']

/-- A rest closes what is before it, or it begins with one of some connectives. -/
def Ends (connectives : List Connective) (rest : List Char) : Prop :=
  Closes rest ∨ ∃ connective ∈ connectives, connective.characters <+: rest

/-- A rest behind a core may have brackets first. -/
def EndsCore (rest : List Char) : Prop :=
  ∃ count behind, rest = brackets count ++ behind ∧ Ends [union, intersection] behind

/-- A rest behind a word begins with a delimiter or a connective. -/
def EndsWord (rest : List Char) : Prop :=
  (∀ character ∈ rest.head?, character ∈ delimiters) ∨
    ∃ connective : Connective, connective.characters <+: rest

theorem ends_append (connective : Connective) {connectives : List Connective}
    (listed : connective ∈ connectives) (rest : List Char) :
    Ends connectives (connective.characters ++ rest) :=
  .inr ⟨connective, listed, List.prefix_append _ _⟩

theorem Ends.mono {connectives others : List Connective} (ends : Ends connectives rest)
    (sub : connectives ⊆ others) : Ends others rest :=
  ends.imp_right fun ⟨connective, listed, begins⟩ => ⟨connective, sub listed, begins⟩

/-- The rest begins with none of the other connectives. -/
theorem Ends.not_prefix {connectives : List Connective} (ends : Ends connectives rest)
    {connective : Connective} (other : connective ∉ connectives) :
    ¬ connective.characters <+: rest := by
  rintro ⟨behind, rfl⟩
  rcases ends with closes | ⟨listed, isListed, begins⟩
  · cases connective <;> simp [Closes, characters] at closes
  · have same : listed = connective := by
      cases listed <;> cases connective <;> simp [characters] at begins ⊢
    exact other (same ▸ isListed)

theorem Ends.head {connectives : List Connective} (ends : Ends connectives rest) :
    ∀ character ∈ rest.head?, character ∈ [',', '>', ']', ' '] := by
  rcases ends with closes | ⟨connective, _, _, rfl⟩
  · intro character isHead
    have listed := closes character isHead
    simp only [List.mem_cons, List.not_mem_nil, or_false] at listed ⊢
    tauto
  · cases connective <;> simp [characters]

theorem EndsCore.head (ends : EndsCore rest) :
    ∀ character ∈ rest.head?, character ∈ ['[', ',', '>', ']', ' '] := by
  obtain ⟨count, behind, rfl, ends⟩ := ends
  cases count with
  | zero => exact fun character isHead => List.mem_cons_of_mem _ (ends.head character isHead)
  | succ count => simp [brackets, List.replicate_succ]

theorem EndsCore.endsWord (ends : EndsCore rest) : EndsWord rest := by
  obtain ⟨count, behind, rfl, ends⟩ := ends
  cases count with
  | zero =>
    rcases ends with closes | ⟨connective, _, begins⟩
    · refine .inl fun character isHead => ?_
      have listed := closes character isHead
      simp only [List.mem_cons, List.not_mem_nil, or_false, delimiters] at listed ⊢
      tauto
    · exact .inr ⟨connective, begins⟩
  | succ count => exact .inl (by simp [brackets, List.replicate_succ, delimiters])

/-- Brackets are counted. -/
theorem brackets_append_inj {count number : Nat} (ends : Ends [union, intersection] rest)
    (endsBehind : Ends [union, intersection] behind)
    (same : brackets count ++ rest = brackets number ++ behind) :
    count = number ∧ rest = behind := by
  induction count generalizing number with
  | zero =>
    cases number with
    | zero => exact ⟨rfl, same⟩
    | succ number =>
      obtain rfl : rest = brackets (number + 1) ++ behind := same
      have head := ends.head
      simp [brackets, List.replicate_succ] at head
  | succ count inductionHypothesis =>
    cases number with
    | zero =>
      obtain rfl : brackets (count + 1) ++ rest = behind := same
      have head := endsBehind.head
      simp [brackets, List.replicate_succ] at head
    | succ number =>
      have fewer : brackets count ++ rest = brackets number ++ behind := by
        simpa [brackets, List.replicate_succ] using same
      obtain ⟨rfl, rfl⟩ := inductionHypothesis fewer
      exact ⟨rfl, rfl⟩

/-- A word does not go on where a rest may begin. -/
theorem IsWord.eq_nil_of_append {word more : List Char} (isWord : IsWord (word ++ more))
    (ends : EndsWord (more ++ behind)) : more = [] := by
  cases more with
  | nil => rfl
  | cons character more =>
    have solid (inside : Char) (member : inside ∈ character :: more) : inside ∉ delimiters :=
      isWord.solid inside (List.mem_append_right word member)
    rcases ends with delimits | ⟨connective, begins⟩
    · exact absurd (delimits character (by simp)) (solid character List.mem_cons_self)
    · obtain ⟨sign, isDelimiter, isSign⟩ := connective.exists_sign
      rw [isSign, List.cons_append, List.cons_prefix_cons] at begins
      obtain ⟨rfl, begins⟩ := begins
      cases more with
      | nil => exact absurd List.getLast?_concat isWord.ends
      | cons second more =>
        rw [List.cons_append, List.cons_prefix_cons] at begins
        obtain ⟨rfl, _⟩ := begins
        exact absurd isDelimiter (solid sign (by simp))

theorem word_unique {word other : List Char} (isWord : IsWord word) (isWordOther : IsWord other)
    (ends : EndsWord rest) (endsBehind : EndsWord behind) (same : word ++ rest = other ++ behind) :
    word = other ∧ rest = behind := by
  rcases List.append_eq_append_iff.mp same with ⟨more, rfl, rfl⟩ | ⟨more, rfl, rfl⟩
  · obtain rfl := isWordOther.eq_nil_of_append ends
    exact ⟨(List.append_nil word).symm, rfl⟩
  · obtain rfl := isWord.eq_nil_of_append endsBehind
    exact ⟨List.append_nil other, rfl⟩

end Rests

section Uniqueness

variable {reading : Reading} {readings : List Reading} {rest behind : List Char}

theorem separable_factor {factor : Factor}
    (core : Separable Core.text Core.Valid EndsCore factor.1) :
    Separable factorText (fun other => other.1.Valid) (Ends [union, intersection]) factor := by
  intro other rest behind valid ends endsBehind same
  rw [factorText, factorText, List.append_assoc, List.append_assoc] at same
  obtain ⟨sameCore, brackets⟩ := core valid ⟨_, _, rfl, ends⟩ ⟨_, _, rfl, endsBehind⟩ same
  obtain ⟨sameCount, sameRest⟩ := brackets_append_inj ends endsBehind brackets
  exact ⟨Prod.ext sameCore sameCount, sameRest⟩

theorem separable_term {term : List Factor} (notEmpty : term ≠ [])
    (cores : ∀ factor ∈ term, Separable Core.text Core.Valid EndsCore factor.1) :
    Separable termText (fun other => other ≠ [] ∧ ∀ factor ∈ other, factor.1.Valid) (Ends [union])
      term :=
  separable_intercalate (ends_append intersection (by decide))
    (fun ends => ⟨ends.mono (by decide), ends.not_prefix (by decide)⟩) notEmpty
    fun factor member => separable_factor (cores factor member)

theorem Reading.Valid.terms (valid : reading.Valid) :
    ∀ term ∈ reading, term ≠ [] ∧ ∀ factor ∈ term, factor.1.Valid :=
  fun term member => ⟨valid.filled.terms term member, valid.each term member⟩

theorem separable_reading (filled : Filled reading)
    (cores : ∀ term ∈ reading, ∀ factor ∈ term,
      Separable Core.text Core.Valid EndsCore factor.1) :
    Separable Reading.text Reading.Valid (Ends []) reading := by
  have whole : Separable (fun terms => union.characters.intercalate (terms.map termText))
      (fun others => others ≠ [] ∧ ∀ other ∈ others,
        other ≠ [] ∧ ∀ factor ∈ other, factor.1.Valid) (Ends []) reading :=
    separable_intercalate (ends_append union (by decide))
      (fun ends => ⟨ends.mono (by decide), ends.not_prefix (by decide)⟩) filled.notEmpty
      fun term member => separable_term (filled.terms term member) (cores term member)
  exact fun other rest behind valid ends endsBehind same =>
    whole ⟨valid.filled.notEmpty, valid.terms⟩ ends endsBehind same

theorem IsWord.head {characters : List Char} (isWord : IsWord characters) :
    ∃ character rest, characters = character :: rest ∧ character ∉ delimiters := by
  obtain ⟨character, rest, rfl⟩ := List.exists_cons_of_ne_nil isWord.notEmpty
  exact ⟨character, rest, rfl, isWord.solid character List.mem_cons_self⟩

theorem Core.Valid.head {core : Core} (valid : core.Valid) :
    ∃ character rest, core.text = character :: rest ∧ character ∉ ['>', ']'] := by
  have small {character : Char} (outside : character ∉ delimiters) : character ∉ ['>', ']'] := by
    simp only [delimiters, List.mem_cons, List.not_mem_nil, or_false] at outside ⊢
    tauto
  cases valid with
  | word isTypeWord =>
    obtain ⟨character, rest, split, outside⟩ := isTypeWord.isWord.head
    exact ⟨character, rest, Core.text_word _ ▸ split, small outside⟩
  | generic isName =>
    obtain ⟨character, rest, split, outside⟩ := isName.isWord.head
    rw [← List.append_nil (Core.text _), Core.text_generic, split]
    exact ⟨character, _, rfl, small outside⟩
  | tuple =>
    rw [← List.append_nil (Core.text _), Core.text_tuple]
    exact ⟨'[', _, rfl, by decide⟩

/-- A text of items begins as the first of them does. -/
theorem intercalate_head (separator : List Char) {first rest : List Char} {character : Char}
    (others : List (List Char)) (split : first = character :: rest) :
    ∃ rest, separator.intercalate (first :: others) = character :: rest := by
  subst split
  cases others with
  | nil => exact ⟨rest, by simp⟩
  | cons second others => exact ⟨_, by rw [List.intercalate_cons_cons]; rfl⟩

/-- No reading begins with what closes a list. -/
theorem Reading.Valid.head (valid : reading.Valid) :
    ∃ character rest, reading.text = character :: rest ∧ character ∉ ['>', ']'] := by
  obtain ⟨term, terms, rfl⟩ := List.exists_cons_of_ne_nil valid.filled.notEmpty
  obtain ⟨factor, factors, rfl⟩ := List.exists_cons_of_ne_nil
    (valid.filled.terms term List.mem_cons_self)
  obtain ⟨character, behind, split, opens⟩ :=
    (valid.each _ List.mem_cons_self factor List.mem_cons_self).head
  have first : factorText factor = character :: (behind ++ brackets factor.2) := by
    rw [factorText, split]
    rfl
  obtain ⟨_, second⟩ :=
    intercalate_head intersection.characters (factors.map factorText) first
  obtain ⟨rest, whole⟩ := intercalate_head union.characters (terms.map termText) second
  exact ⟨character, rest, whole, opens⟩

/-- Readings in brackets are told apart. -/
theorem list_unique (close : Char) (isClose : close ∈ ['>', ']'])
    (each : ∀ reading ∈ readings, Separable Reading.text Reading.Valid (Ends []) reading)
    (valid : ∀ reading ∈ readings, reading.Valid) {others : List Reading}
    (othersValid : ∀ other ∈ others, other.Valid)
    (same : listText readings ++ close :: rest = listText others ++ close :: behind) :
    readings = others ∧ rest = behind := by
  have opens {items : List Reading} (filled : items ≠ []) (valid : ∀ item ∈ items, item.Valid)
      (behind rest : List Char) : listText items ++ behind ≠ close :: rest := by
    obtain ⟨first, items, rfl⟩ := List.exists_cons_of_ne_nil filled
    obtain ⟨character, _, split, opens⟩ := (valid first List.mem_cons_self).head
    obtain ⟨_, whole⟩ := intercalate_head comma (items.map Reading.text) split
    rw [listText, List.map_cons, whole, List.cons_append]
    rintro closes
    exact opens ((List.cons.inj closes).1 ▸ isClose)
  by_cases empty : readings = []
  · subst empty
    by_cases emptyToo : others = []
    · subst emptyToo
      exact ⟨rfl, (List.cons.inj same).2⟩
    · exact absurd same.symm (opens emptyToo othersValid _ _)
  · by_cases emptyToo : others = []
    · subst emptyToo
      exact absurd same (opens empty valid _ _)
    · have closes {rest : List Char} (closed : ∃ behind, rest = close :: behind) :
          Ends [] rest ∧ ¬ comma <+: rest := by
        obtain ⟨behind, rfl⟩ := closed
        simp only [List.mem_cons, List.not_mem_nil, or_false] at isClose
        rcases isClose with rfl | rfl <;> simp [Ends, Closes, comma]
      obtain ⟨rfl, sameRest⟩ := separable_intercalate
        (fun rest => Or.inl (by simp [Closes, comma]) : ∀ rest, Ends [] (comma ++ rest))
        closes empty each ⟨emptyToo, othersValid⟩ ⟨_, rfl⟩ ⟨_, rfl⟩ same
      exact ⟨rfl, (List.cons.inj sameRest).2⟩

theorem endsWord_angle (rest : List Char) : EndsWord ('<' :: rest) :=
  .inl (by simp [delimiters])

/-- A name is not a name with arguments. -/
theorem word_ne_generic {text name : List Char} (isWord : IsWord text) (isName : IsWord name)
    (ends : EndsCore rest) : text ++ rest ≠ name ++ '<' :: behind := by
  intro same
  obtain ⟨_, rfl⟩ := word_unique isWord isName ends.endsWord (endsWord_angle _) same
  have head := ends.head
  simp at head

theorem word_ne_bracket {text : List Char} (isWord : IsWord text) :
    text ++ rest ≠ '[' :: behind := by
  obtain ⟨character, more, rfl, outside⟩ := isWord.head
  intro same
  exact outside ((List.cons.inj same).1 ▸ by decide)

/-- The text of a core is told from those of all others. -/
theorem Core.Valid.separable {core : Core} (valid : core.Valid) :
    Separable Core.text Core.Valid EndsCore core := by
  have readings {items : List Reading} (filled : ∀ item ∈ items, Filled item)
      (each : ∀ item ∈ items, ∀ term ∈ item, ∀ factor ∈ term,
        Separable Core.text Core.Valid EndsCore factor.1) :
      ∀ item ∈ items, Separable Reading.text Reading.Valid (Ends []) item :=
    fun item member => separable_reading (filled item member) (each item member)
  have together {items : List Reading} (filled : ∀ item ∈ items, Filled item)
      (each : ∀ item ∈ items, ∀ term ∈ item, ∀ factor ∈ term, factor.1.Valid) :
      ∀ item ∈ items, item.Valid :=
    fun item member => ⟨filled item member, each item member⟩
  induction valid with
  | word isTypeWord =>
    have isWord := isTypeWord.isWord
    intro other rest behind otherValid ends endsBehind same
    rw [Core.text_word] at same
    cases otherValid with
    | word isOther =>
      rw [Core.text_word] at same
      obtain ⟨sameText, sameRest⟩ :=
        word_unique isWord isOther.isWord ends.endsWord endsBehind.endsWord same
      exact ⟨congrArg _ (String.toList_inj.mp sameText), sameRest⟩
    | generic isName =>
      rw [Core.text_generic] at same
      exact absurd same (word_ne_generic isWord isName.isWord ends)
    | tuple =>
      rw [Core.text_tuple] at same
      exact absurd same (word_ne_bracket isWord)
  | generic isName _ filled each inductionHypothesis =>
    intro other rest behind otherValid ends endsBehind same
    rw [Core.text_generic] at same
    cases otherValid with
    | word isOther =>
      rw [Core.text_word] at same
      exact absurd same.symm (word_ne_generic isOther.isWord isName.isWord endsBehind)
    | generic isNameOther _ filledOther eachOther =>
      rw [Core.text_generic] at same
      obtain ⟨sameName, same⟩ := word_unique isName.isWord isNameOther.isWord
        (endsWord_angle _) (endsWord_angle _) same
      obtain ⟨rfl, sameRest⟩ := list_unique '>' (by decide)
        (readings filled inductionHypothesis) (together filled each)
        (together filledOther eachOther) (List.cons.inj same).2
      obtain rfl := String.toList_inj.mp sameName
      exact ⟨rfl, sameRest⟩
    | tuple =>
      rw [Core.text_tuple] at same
      exact absurd same (word_ne_bracket isName.isWord)
  | tuple filled each inductionHypothesis =>
    intro other rest behind otherValid ends endsBehind same
    rw [Core.text_tuple] at same
    cases otherValid with
    | word isOther =>
      rw [Core.text_word] at same
      exact absurd same.symm (word_ne_bracket isOther.isWord)
    | generic isNameOther =>
      rw [Core.text_generic] at same
      exact absurd same.symm (word_ne_bracket isNameOther.isWord)
    | tuple filledOther eachOther =>
      rw [Core.text_tuple] at same
      obtain ⟨rfl, sameRest⟩ := list_unique ']' (by decide)
        (readings filled inductionHypothesis) (together filled each)
        (together filledOther eachOther) (List.cons.inj same).2
      exact ⟨rfl, sameRest⟩

/-- A text has one reading. -/
theorem Reading.text_inj {other : Reading} (valid : reading.Valid) (otherValid : other.Valid) :
    reading.text = other.text ↔ reading = other := by
  refine ⟨fun same => ?_, fun same => congrArg _ same⟩
  have separable := separable_reading valid.filled fun term member factor isFactor =>
    (valid.each term member factor isFactor).separable
  have nothing : Ends [] [] := .inl (by simp [Closes])
  exact (separable otherValid nothing nothing (congrArg (· ++ []) same)).1

end Uniqueness

end ExportIndex.TypeScript
