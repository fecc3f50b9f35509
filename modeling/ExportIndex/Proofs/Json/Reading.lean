import ExportIndex.Proofs.Json.Spelling
import Mathlib

/-
This file says which texts write a JSON value. Both printers write their values in such texts, and
the reader gets the values back from them, with the members of objects as they were.
-/

namespace ExportIndex.Json

section Numbers

/-- A text does not go on with a number. -/
def EndsNumber (rest : List Char) : Prop :=
  ∀ next ∈ rest.head?, isDigit next = false ∧ next ≠ '.' ∧ next ≠ 'e' ∧ next ≠ 'E'

theorem isDigit_of_mem_toDigits {value : Nat} {digit : Char}
    (member : digit ∈ Nat.toDigits 10 value) : isDigit digit = true :=
  Nat.isDigit_of_mem_toDigits (by decide) (by decide) member

theorem exists_firstDigit (value : Nat) :
    ∃ first rest, Nat.toDigits 10 value = first :: rest ∧ isDigit first = true := by
  have filled : Nat.toDigits 10 value ≠ [] := Nat.toDigits_ne_nil
  obtain ⟨first, rest, written⟩ := List.exists_cons_of_ne_nil filled
  exact ⟨first, rest, written, isDigit_of_mem_toDigits (written ▸ List.mem_cons_self)⟩

theorem decimalValue_toDigits (value : Nat) : decimalValue (Nat.toDigits 10 value) = value :=
  Nat.ofDigitChars_toDigits (by decide) (by decide)

/-- Only zero is written with a zero in front. -/
theorem head?_toDigits {value : Nat} (positive : 0 < value) :
    ∃ first rest, Nat.toDigits 10 value = first :: rest ∧ first ≠ '0' := by
  induction value using Nat.strong_induction_on with
  | _ value ih =>
    by_cases small : value < 10
    · rw [Nat.toDigits_of_lt_base small]
      refine ⟨_, _, rfl, ?_⟩
      interval_cases value <;> decide
    · obtain ⟨first, rest, written, apart⟩ := ih (value / 10) (by omega) (by omega)
      rw [Nat.toDigits_of_base_le (by decide) (Nat.le_of_not_lt small), written]
      exact ⟨first, _, List.cons_append, apart⟩

theorem takeWhile_digits {digits rest : List Char} (all : ∀ digit ∈ digits, isDigit digit = true)
    (ends : EndsNumber rest) :
    (digits ++ rest).takeWhile isDigit = digits ∧ (digits ++ rest).dropWhile isDigit = rest := by
  rw [List.takeWhile_append_of_pos all, List.dropWhile_append_of_pos all]
  cases rest with
  | nil => simp
  | cons next rest => simp [(ends next rfl).1]

theorem readWhole_toDigits (value : Nat) {rest : List Char} (ends : EndsNumber rest) :
    readWhole (Nat.toDigits 10 value ++ rest) = some (Nat.toDigits 10 value, rest) := by
  rcases Nat.eq_zero_or_pos value with rfl | positive
  · rfl
  · obtain ⟨first, others, written, apart⟩ := head?_toDigits positive
    have all : ∀ digit ∈ Nat.toDigits 10 value, isDigit digit = true :=
      fun _ => isDigit_of_mem_toDigits
    rw [written] at all ⊢
    obtain ⟨taken, dropped⟩ := takeWhile_digits all ends
    rw [List.cons_append] at taken dropped ⊢
    unfold readWhole
    split
    · next zero =>
      exact absurd (List.cons.inj zero).1 apart
    · simp [taken, dropped]

theorem readFraction_of_ends {rest : List Char} (ends : EndsNumber rest) :
    readFraction rest = some ([], rest) := by
  cases rest with
  | nil => rfl
  | cons next rest => simp [readFraction, (ends next rfl).2.1]

theorem readExponent_of_ends {rest : List Char} (ends : EndsNumber rest) :
    readExponent rest = some ([], rest) := by
  cases rest with
  | nil => rfl
  | cons next rest => simp [readExponent, (ends next rfl).2.2]

theorem readUnsigned_toDigits (negative : Bool) (value : Nat) {rest : List Char}
    (ends : EndsNumber rest) (signed : negative = true → 0 < value) :
    readUnsigned negative (Nat.toDigits 10 value ++ rest) =
      some (.integer (if negative then -value else value), rest) := by
  have zero : negative = true → Nat.toDigits 10 value ≠ ['0'] := by
    intro isNegative written
    obtain ⟨first, others, same, apart⟩ := head?_toDigits (signed isNegative)
    rw [written] at same
    exact apart (List.cons.inj same).1.symm
  rw [readUnsigned, readWhole_toDigits value ends]
  cases negative <;>
    simp [readFraction_of_ends ends, readExponent_of_ends ends, decimalValue_toDigits, zero]

theorem toList_toString_ofNat (value : Nat) :
    (toString (Int.ofNat value)).toList = Nat.toDigits 10 value :=
  String.toList_ofList

theorem toList_toString_negSucc (value : Nat) :
    (toString (Int.negSucc value)).toList = '-' :: Nat.toDigits 10 (value + 1) := by
  have written : toString (Int.negSucc value) =
      "-" ++ String.ofList (Nat.toDigits 10 (value + 1)) := rfl
  simp [written]

/-- An integer that is printed is read back. -/
theorem readNumber_toString (value : Int) {rest : List Char} (ends : EndsNumber rest) :
    readNumber ((toString value).toList ++ rest) = some (.integer value, rest) := by
  cases value with
  | ofNat value =>
    obtain ⟨first, others, written, digit⟩ := exists_firstDigit value
    have unsigned := readUnsigned_toDigits false value ends (by simp)
    rw [toList_toString_ofNat]
    rw [written, List.cons_append] at unsigned ⊢
    unfold readNumber
    split
    · next sign =>
      obtain ⟨rfl, -⟩ := List.cons.inj sign
      cases digit
    · exact unsigned
  | negSucc value =>
    rw [toList_toString_negSucc]
    exact readUnsigned_toDigits true (value + 1) ends fun _ => Nat.succ_pos value

end Numbers

section Values

/-- Characters that may stand between the parts of a value. -/
def Blank (characters : List Char) : Prop :=
  ∀ character ∈ characters, isSpace character = true

mutual

/-- A text writes a value, perhaps with blanks between the parts of the value. -/
inductive Writes : Json → List Char → Prop
  | null : Writes null ['n', 'u', 'l', 'l']
  | true : Writes (bool true) ['t', 'r', 'u', 'e']
  | false : Writes (bool false) ['f', 'a', 'l', 's', 'e']
  | integer (value : Int) : Writes (integer value) (toString value).toList
  | text (value : String) : Writes (text value) (quoteChars value.toList)
  | emptyList {blanks : List Char} (blank : Blank blanks) :
      Writes (list []) ('[' :: (blanks ++ [']']))
  | list {items : List Json} {blanks body : List Char} (blank : Blank blanks)
      (written : WritesItems items body) : Writes (list items) ('[' :: (blanks ++ body))
  | emptyObject {blanks : List Char} (blank : Blank blanks) :
      Writes (object []) ('\x7b' :: (blanks ++ ['\x7d']))
  | object {members : List (String × Json)} {blanks body : List Char} (blank : Blank blanks)
      (written : WritesMembers members body) : Writes (object members) ('\x7b' :: (blanks ++ body))

/-- A text writes the items of a list and the bracket behind them. -/
inductive WritesItems : List Json → List Char → Prop
  | last {item : Json} {text blanks : List Char} (written : Writes item text)
      (blank : Blank blanks) : WritesItems [item] (text ++ (blanks ++ [']']))
  | more {item : Json} {rest : List Json} {text before behind body : List Char}
      (written : Writes item text) (blank : Blank before) (blankBehind : Blank behind)
      (others : WritesItems rest body) :
      WritesItems (item :: rest) (text ++ (before ++ ',' :: (behind ++ body)))

/-- A text writes the members of an object and the bracket behind them. -/
inductive WritesMembers : List (String × Json) → List Char → Prop
  | last {key : String} {value : Json} {text blanks : List Char}
      (written : WritesMember key value text)
      (blank : Blank blanks) : WritesMembers [(key, value)] (text ++ (blanks ++ ['\x7d']))
  | more {key : String} {value : Json} {rest : List (String × Json)}
      {text before behind body : List Char} (written : WritesMember key value text)
      (blank : Blank before) (blankBehind : Blank behind) (others : WritesMembers rest body) :
      WritesMembers ((key, value) :: rest) (text ++ (before ++ ',' :: (behind ++ body)))

/-- A text writes a member of an object. -/
inductive WritesMember : String → Json → List Char → Prop
  | mk (key : String) {value : Json} {text before behind : List Char}
      (written : Writes value text) (blank : Blank before) (blankBehind : Blank behind) :
      WritesMember key value (quoteChars key.toList ++ (before ++ ':' :: (behind ++ text)))

end

theorem skipSpaces_append {blanks : List Char} (blank : Blank blanks) (rest : List Char) :
    skipSpaces (blanks ++ rest) = skipSpaces rest :=
  List.dropWhile_append_of_pos blank

theorem skipSpaces_cons {first : Char} (solid : isSpace first = false) (rest : List Char) :
    skipSpaces (first :: rest) = first :: rest := by
  rw [skipSpaces, List.dropWhile_cons, if_neg (by simp [solid])]

/-- No blank goes on with a number. -/
theorem EndsNumber.append {blanks rest : List Char} (blank : Blank blanks)
    (ends : EndsNumber rest) : EndsNumber (blanks ++ rest) := by
  cases blanks with
  | nil => exact ends
  | cons first blanks =>
    intro next member
    obtain rfl : first = next := by simpa using member
    have space := blank first List.mem_cons_self
    simp only [isSpace, Bool.or_eq_true, decide_eq_true_eq] at space
    obtain ((rfl | rfl) | rfl) | rfl := space <;> decide

/-- A text begins with a character that is no blank and closes no list. -/
def Opens (text : List Char) : Prop :=
  ∃ first rest, text = first :: rest ∧ isSpace first = false ∧ first ≠ ']'

theorem Opens.append {text : List Char} (opens : Opens text) (rest : List Char) :
    Opens (text ++ rest) := by
  obtain ⟨first, others, rfl, solid, apart⟩ := opens
  exact ⟨first, _, List.cons_append, solid, apart⟩

theorem opens_of_isDigit {first : Char} (digit : isDigit first = true) (rest : List Char) :
    Opens (first :: rest) := by
  refine ⟨first, rest, rfl, ?_, ?_⟩
  · by_contra space
    simp only [isSpace, Bool.not_eq_false, Bool.or_eq_true, decide_eq_true_eq] at space
    obtain ((rfl | rfl) | rfl) | rfl := space <;> cases digit
  · rintro rfl
    cases digit

/-- An integer begins with its sign or with a digit. -/
theorem exists_startOfInteger (value : Int) :
    ∃ first rest, (toString value).toList = first :: rest ∧
      (first = '-' ∨ isDigit first = true) := by
  cases value with
  | ofNat value =>
    obtain ⟨first, rest, written, digit⟩ := exists_firstDigit value
    exact ⟨first, rest, (toList_toString_ofNat value).trans written, .inr digit⟩
  | negSucc value => exact ⟨'-', _, toList_toString_negSucc value, .inl rfl⟩

theorem opens_toString (value : Int) : Opens (toString value).toList := by
  obtain ⟨first, rest, written, rfl | digit⟩ := exists_startOfInteger value
  · exact ⟨'-', rest, written, rfl, by decide⟩
  · exact written ▸ opens_of_isDigit digit rest

theorem Writes.opens {json : Json} {text : List Char} (written : Writes json text) :
    Opens text := by
  cases written with
  | integer value => exact opens_toString value
  | _ => exact ⟨_, _, rfl, rfl, by decide⟩

theorem WritesItems.opens {items : List Json} {text : List Char}
    (written : WritesItems items text) : Opens text := by
  cases written with
  | last written => exact written.opens.append _
  | more written => exact written.opens.append _

theorem WritesMembers.quoted {members : List (String × Json)} {text : List Char}
    (written : WritesMembers members text) : ∃ rest, text = '"' :: rest := by
  cases written with
  | last written =>
    cases written
    exact ⟨_, rfl⟩
  | more written =>
    cases written
    exact ⟨_, rfl⟩

theorem readValue_blank {blanks : List Char} (blank : Blank blanks) (depth : Nat)
    (characters : List Char) :
    readValue depth (blanks ++ characters) = readValue depth characters := by
  cases depth with
  | zero => rw [readValue, readValue]
  | succ depth => rw [readValue, readValue, skipSpaces_append blank]

theorem readItems_blank {blanks : List Char} (blank : Blank blanks) (depth : Nat)
    (characters : List Char) :
    readItems depth (blanks ++ characters) = readItems depth characters := by
  cases depth with
  | zero => rw [readItems, readItems]
  | succ depth => rw [readItems, readItems, readValue_blank blank]

theorem readMembers_blank {blanks : List Char} (blank : Blank blanks) (depth : Nat)
    (characters : List Char) :
    readMembers depth (blanks ++ characters) = readMembers depth characters := by
  cases depth with
  | zero => rw [readMembers, readMembers]
  | succ depth => rw [readMembers, readMembers, skipSpaces_append blank]

/-- A number is what is read behind a digit or a sign. -/
theorem readValue_number {first : Char} (starts : first = '-' ∨ isDigit first = true)
    (depth : Nat) (rest : List Char) :
    readValue (depth + 1) (first :: rest) = readNumber (first :: rest) := by
  have solid : isSpace first = false := by
    rcases starts with rfl | digit
    · rfl
    · obtain ⟨_, _, same, solid, _⟩ := opens_of_isDigit digit rest
      exact (List.cons.inj same).1 ▸ solid
  rw [readValue, skipSpaces_cons solid]
  split
  all_goals first
    | rfl
    | next same =>
      obtain ⟨rfl, -⟩ := List.cons.inj same
      rcases starts with starts | starts <;> cases starts

theorem readValue_list {blanks body : List Char} (blank : Blank blanks) (opens : Opens body)
    (depth : Nat) :
    readValue (depth + 1) ('[' :: (blanks ++ body)) =
      (readItems depth body).map fun (items, rest) => (.list items, rest) := by
  obtain ⟨first, rest, rfl, solid, apart⟩ := opens
  rw [readValue, skipSpaces_cons rfl]
  simp only [skipSpaces_append blank, skipSpaces_cons solid]
  split
  · next same =>
    exact absurd (List.cons.inj same).1 apart
  · rfl

theorem readValue_object {blanks body : List Char} (blank : Blank blanks) (depth : Nat) :
    readValue (depth + 1) ('\x7b' :: (blanks ++ '"' :: body)) =
      (readMembers depth ('"' :: body)).map fun (members, rest) => (.object members, rest) := by
  have solid : isSpace '"' = false := rfl
  rw [readValue, skipSpaces_cons rfl]
  simp only [skipSpaces_append blank, skipSpaces_cons solid]
  rfl

theorem endsNumber_comma (rest : List Char) : EndsNumber (',' :: rest) := by
  simp [EndsNumber, isDigit]

theorem endsNumber_bracket (rest : List Char) : EndsNumber (']' :: rest) := by
  simp [EndsNumber, isDigit]

theorem endsNumber_brace (rest : List Char) : EndsNumber ('\x7d' :: rest) := by
  simp [EndsNumber, isDigit]

mutual

/-- A value is read from a text that writes it, whatever follows, unless that goes on with a
number. Every call goes behind a character, so the length of the text is depth enough. -/
theorem Writes.read {json : Json} {text : List Char} {depth : Nat} {rest : List Char}
    (enough : text.length < depth) (ends : EndsNumber rest) :
    Writes json text → readValue depth (text ++ rest) = some (json, rest) := by
  obtain ⟨depth, rfl⟩ := Nat.exists_eq_add_one_of_ne_zero (Nat.ne_zero_of_lt enough)
  intro written
  cases written with
  | null => rfl
  | true => rfl
  | false => rfl
  | integer value =>
    have number := readNumber_toString value ends
    obtain ⟨first, others, same, starts⟩ := exists_startOfInteger value
    rw [same, List.cons_append] at number ⊢
    rw [readValue_number starts, number]
  | text value =>
    have inner := readText_quoted value.toList rest
    simp [readValue, quoteChars, skipSpaces_cons, isSpace, inner]
  | emptyList blank =>
    simp [readValue, skipSpaces_cons, isSpace, skipSpaces_append blank]
  | list blank written =>
    rw [List.length_cons, List.length_append] at enough
    have inner : readItems depth (_ ++ rest) = _ := written.read (by omega)
    rw [List.cons_append, List.append_assoc, readValue_list blank (written.opens.append rest),
      inner, Option.map_some]
  | emptyObject blank =>
    simp [readValue, skipSpaces_cons, isSpace, skipSpaces_append blank]
  | object blank written =>
    rw [List.length_cons, List.length_append] at enough
    have inner : readMembers depth (_ ++ rest) = _ := written.read (by omega)
    obtain ⟨body, rfl⟩ := written.quoted
    rw [List.cons_append] at inner
    rw [List.cons_append, List.append_assoc, List.cons_append, readValue_object blank, inner,
      Option.map_some]

theorem WritesItems.read {items : List Json} {text : List Char} {depth : Nat} {rest : List Char}
    (enough : text.length < depth) :
    WritesItems items text → readItems depth (text ++ rest) = some (items, rest) := by
  obtain ⟨depth, rfl⟩ := Nat.exists_eq_add_one_of_ne_zero (Nat.ne_zero_of_lt enough)
  intro written
  cases written with
  | last written blank =>
    rw [List.length_append, List.length_append, List.length_singleton] at enough
    have item : readValue depth _ = _ :=
      written.read (by omega) (.append blank (endsNumber_bracket rest))
    simp [readItems, item, skipSpaces_append blank, skipSpaces_cons, isSpace]
  | more written blank blankBehind others =>
    rw [List.length_append, List.length_append, List.length_cons, List.length_append] at enough
    have item (rest : List Char) : readValue depth _ = _ :=
      written.read (by omega) (.append blank (endsNumber_comma rest))
    have behind : readItems depth (_ ++ rest) = _ := others.read (by omega)
    simp [readItems, item, skipSpaces_append blank, skipSpaces_cons, isSpace,
      readItems_blank blankBehind, behind]

theorem WritesMembers.read {members : List (String × Json)} {text : List Char} {depth : Nat}
    {rest : List Char} (enough : text.length < depth) :
    WritesMembers members text → readMembers depth (text ++ rest) = some (members, rest) := by
  obtain ⟨depth, rfl⟩ := Nat.exists_eq_add_one_of_ne_zero (Nat.ne_zero_of_lt enough)
  intro written
  cases written with
  | last written blank =>
    obtain ⟨key, written, blankBefore, blankBehind⟩ := written
    simp only [List.length_append, List.length_cons] at enough
    have value : readValue depth _ = _ :=
      written.read (by omega) (.append blank (endsNumber_brace rest))
    simp [readMembers, quoteChars, skipSpaces_cons, isSpace, readText_quoted,
      skipSpaces_append blankBefore, readValue_blank blankBehind, value, skipSpaces_append blank]
  | more written blank blankBehind others =>
    obtain ⟨key, written, blankBefore, blankValue⟩ := written
    simp only [List.length_append, List.length_cons] at enough
    have value (rest : List Char) : readValue depth _ = _ :=
      written.read (by omega) (.append blank (endsNumber_comma rest))
    have behind : readMembers depth (_ ++ rest) = _ := others.read (by omega)
    simp [readMembers, quoteChars, skipSpaces_cons, isSpace, readText_quoted,
      skipSpaces_append blankBefore, readValue_blank blankValue, value, skipSpaces_append blank,
      readMembers_blank blankBehind, behind]

end

/-- The reader understands a text that writes a value, and finds this value. -/
theorem read?_of_writes {json : Json} {text : List Char} (written : Writes json text) :
    read? text = some json := by
  have ends : EndsNumber [] := by simp [EndsNumber]
  have enough : text.length < 2 * text.length + 2 := by omega
  have value := written.read enough ends
  rw [List.append_nil] at value
  rw [read?, value]
  rfl

end Values

end ExportIndex.Json
