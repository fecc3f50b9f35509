import ExportIndex.Proofs.TypeScript.Decoding
import Mathlib

/-
This file divides the body of a string literal into characters and escapes, and shows what each
part contributes to the decoded text. Where that is not what the part means in the language, the
part is an irregular one or a half of a pair.
-/

namespace ExportIndex.TypeScript

open Json (AreHexadecimal IsHexadecimal hexadecimalValue hexNumber?_eq)

/-- The forms of an escape by number. -/
inductive NumberForm where
  /-- Two digits behind `\x`. -/
  | byte
  /-- Four digits behind `\u`. -/
  | unit
  /-- Digits in braces behind `\u`. -/
  | braced
  /-- What stands behind `\u` and a brace that is never closed. -/
  | unclosed
deriving DecidableEq

namespace NumberForm

def opening : NumberForm → List Char
  | byte => ['\\', 'x']
  | unit => ['\\', 'u']
  | braced => ['\\', 'u', '\x7b']
  | unclosed => ['\\', 'u', '\x7b']

def closing : NumberForm → List Char
  | braced => ['\x7d']
  | _ => []

/-- How far an escape goes that stands before the rest of a body. It covers what stands in the place
of its digits, whatever that is, and is cut off where the body ends. -/
def Takes : NumberForm → List Char → List Char → Prop
  | byte, digits, rest => digits.length = 2 ∨ digits.length < 2 ∧ rest = []
  | unit, digits, rest => (digits ++ rest).head? ≠ some '\x7b' ∧
      (digits.length = 4 ∨ digits.length < 4 ∧ rest = [])
  | braced, digits, _ => '\x7d' ∉ digits
  | unclosed, digits, rest => '\x7d' ∉ digits ∧ rest = []

/-- An escape has the digits that its form requires. -/
def WellFormed (form : NumberForm) (digits : List Char) : Prop :=
  AreHexadecimal digits ∧
    match form with
    | byte => digits.length = 2
    | unit => digits.length = 4
    | braced => digits ≠ []
    | unclosed => False

instance (form : NumberForm) (digits rest : List Char) : Decidable (form.Takes digits rest) :=
  match form with
  | byte => inferInstanceAs (Decidable (_ ∨ _ ∧ _))
  | unit => inferInstanceAs (Decidable (_ ∧ (_ ∨ _ ∧ _)))
  | braced => inferInstanceAs (Decidable (_ ∉ _))
  | unclosed => inferInstanceAs (Decidable (_ ∧ _))

instance (form : NumberForm) (digits : List Char) : Decidable (form.WellFormed digits) :=
  match form with
  | byte => inferInstanceAs (Decidable (_ ∧ _ = _))
  | unit => inferInstanceAs (Decidable (_ ∧ _ = _))
  | braced => inferInstanceAs (Decidable (_ ∧ _ ≠ _))
  | unclosed => inferInstanceAs (Decidable (_ ∧ False))

end NumberForm

/-- A part of the body of a string literal. -/
inductive Part where
  /-- A character by itself. -/
  | plain (character : Char)
  /-- A backslash before a character with which no longer escape begins. Strict code has no digit
  here. -/
  | escaped (character : Char)
  | null
  /-- A backslash at the end of a line. -/
  | continuation (ending : List Char)
  | number (form : NumberForm) (digits : List Char)
deriving DecidableEq

/-- The characters with a meaning of their own behind a backslash. -/
def singleEscapes : List (Char × Char) :=
  [('b', '\x08'), ('f', '\x0c'), ('n', '\n'), ('r', '\r'), ('t', '\t'), ('v', '\x0b')]

/-- The ends of lines in the language. -/
def lineEnds : List (List Char) := [['\n'], ['\r'], ['\r', '\n'], ['\u2028'], ['\u2029']]

/-- Digits without a plus sign before them. -/
def unsigned : List Char → List Char
  | '+' :: digits => digits
  | digits => digits

/-- A text gives the number of a character, perhaps with a sign. -/
def GivesCharacter (digits : List Char) : Prop :=
  unsigned digits ≠ [] ∧ AreHexadecimal (unsigned digits) ∧
    (hexadecimalValue (unsigned digits)).isValidChar

instance (digits : List Char) : Decidable (GivesCharacter digits) :=
  inferInstanceAs (Decidable (_ ∧ _ ∧ _))

namespace Part

def written : Part → List Char
  | plain character => [character]
  | escaped character => ['\\', character]
  | null => ['\\', '0']
  | continuation ending => '\\' :: ending
  | number form digits => form.opening ++ digits ++ form.closing

/-- A part begins here, and not another one, if the rest of a body stands behind it. -/
def Fits : Part → List Char → Prop
  | plain character, rest => character = '\\' → rest = []
  | escaped character, rest => character ≠ 'x' ∧ character ≠ 'u' ∧ [character] ∉ lineEnds ∧
      (character = '0' → rest.head?.any Char.isDigit)
  | null, rest => rest.head?.any Char.isDigit = false
  | continuation ending, rest => ending ∈ lineEnds ∧ (ending = ['\r'] → rest.head? ≠ some '\n')
  | number form digits, rest => form.Takes digits rest

instance (part : Part) (rest : List Char) : Decidable (part.Fits rest) :=
  match part with
  | plain _ => inferInstanceAs (Decidable (_ → _))
  | escaped _ => inferInstanceAs (Decidable (_ ∧ _ ∧ _ ∧ (_ → _)))
  | null => inferInstanceAs (Decidable (_ = _))
  | continuation _ => inferInstanceAs (Decidable (_ ∧ (_ → _)))
  | number form digits => inferInstanceAs (Decidable (form.Takes digits rest))

/-- What a part means in the language. An escape without the digits that it requires, or with the
number of no character, means its own text with all that it covers. It has no meaning by itself if
it covers a backslash, for another escape begins there. -/
def value? : Part → Option (List Char)
  | plain character => some [character]
  | escaped character => some [(singleEscapes.lookup character).getD character]
  | null => some ['\x00']
  | continuation _ => some []
  | number form digits =>
    if form.WellFormed digits ∧ (hexadecimalValue digits).isValidChar then
      some [Char.ofNat (hexadecimalValue digits)]
    else if '\\' ∈ digits then none
    else some (number form digits).written

/-- What a part contributes to the decoded text. -/
def given : Part → List Char
  | plain character => [character]
  | escaped character => [(singleEscapes.lookup character).getD character]
  | null => ['\x00']
  | continuation ending =>
    if ending = ['\u2028'] ∨ ending = ['\u2029'] then ending else []
  | number form digits =>
    if GivesCharacter digits then [Char.ofNat (hexadecimalValue (unsigned digits))]
    else form.opening ++ digits ++
      if form = .unclosed then NumberForm.closing .braced else form.closing

/-- A part is none of these: a backslash before a separator of lines, a brace that is never closed,
a number that covers a backslash or that is read although it is signed or cut off. -/
def Regular : Part → Prop
  | continuation ending => ending ≠ ['\u2028'] ∧ ending ≠ ['\u2029']
  | number form digits =>
    form ≠ .unclosed ∧ '\\' ∉ digits ∧ (GivesCharacter digits → form.WellFormed digits)
  | _ => True

instance (part : Part) : Decidable part.Regular :=
  match part with
  | plain _ => inferInstanceAs (Decidable True)
  | escaped _ => inferInstanceAs (Decidable True)
  | null => inferInstanceAs (Decidable True)
  | continuation _ => inferInstanceAs (Decidable (_ ∧ _))
  | number _ _ => inferInstanceAs (Decidable (_ ∧ _ ∧ (_ → _)))

/-- The number of a part that means half a character. -/
def half? : Part → Option Nat
  | number form digits =>
    if form.WellFormed digits ∧ 0xd800 ≤ hexadecimalValue digits ∧
      hexadecimalValue digits < 0xe000 then some (hexadecimalValue digits)
    else none
  | _ => none

/-- The character that two halves make. -/
def pair? (first second : Part) : Option Char := do
  let high ← first.half?
  let low ← second.half?
  if high < 0xdc00 ∧ 0xdc00 ≤ low then
    some (Char.ofNat (0x10000 + (high - 0xd800) * 0x400 + (low - 0xdc00)))
  else none

end Part

/-- What the parts of a body mean together. Halves that follow each other make a character. -/
def meaning? : List Part → Option (List Char)
  | first :: second :: rest =>
    match first.pair? second with
    | some character => (meaning? rest).map (character :: ·)
    | none => first.value?.bind fun text => (meaning? (second :: rest)).map (text ++ ·)
  | [part] => part.value?
  | [] => some []

/-- Each part fits before the ones behind it. -/
def FitTogether : List Part → Prop
  | [] => True
  | part :: rest => part.Fits (rest.flatMap Part.written) ∧ FitTogether rest

instance decidableFitTogether : (parts : List Part) → Decidable (FitTogether parts)
  | [] => inferInstanceAs (Decidable True)
  | _ :: rest =>
    have := decidableFitTogether rest
    inferInstanceAs (Decidable (_ ∧ _))

/-- The parts of a body, from its start to its end. -/
structure Divides (body : List Char) (parts : List Part) : Prop where
  written : parts.flatMap Part.written = body
  fits : FitTogether parts

section Division

/-- Of a list as many items are taken as there should be, or all there are. -/
theorem exists_taken (count : Nat) (characters : List Char) :
    ∃ taken rest, characters = taken ++ rest ∧
      (taken.length = count ∨ taken.length < count ∧ rest = []) := by
  refine ⟨characters.take count, characters.drop count, (List.take_append_drop ..).symm, ?_⟩
  rw [List.length_take, List.drop_eq_nil_iff]
  omega

/-- Behind `\u` digits are taken in one of three forms. -/
theorem exists_number (behind : List Char) :
    ∃ (form : NumberForm) (digits rest : List Char),
      '\\' :: 'u' :: behind = (Part.number form digits).written ++ rest ∧
        form.Takes digits rest := by
  by_cases isBraced : behind.head? = some '\x7b'
  · obtain ⟨behind, rfl⟩ := List.head?_eq_some_iff.mp isBraced
    by_cases isClosed : '\x7d' ∈ behind
    · obtain ⟨digits, rest, rfl, notOpen⟩ := List.eq_append_cons_of_mem isClosed
      exact ⟨.braced, digits, rest, by simp [Part.written, NumberForm.opening,
        NumberForm.closing], notOpen⟩
    · exact ⟨.unclosed, behind, [], by simp [Part.written, NumberForm.opening,
        NumberForm.closing], isClosed, rfl⟩
  · obtain ⟨digits, rest, rfl, taken⟩ := exists_taken 4 behind
    exact ⟨.unit, digits, rest, by simp [Part.written, NumberForm.opening, NumberForm.closing],
      isBraced, taken⟩

/-- Behind a backslash something begins that fits before what follows. -/
theorem exists_escape (behind : List Char) :
    ∃ part : Part, ∃ rest, '\\' :: behind = part.written ++ rest ∧ part.Fits rest ∧
      rest.length ≤ behind.length := by
  rcases behind with _ | ⟨character, behind⟩
  · exact ⟨.plain '\\', [], rfl, fun _ => rfl, le_rfl⟩
  by_cases isByte : character = 'x'
  · obtain ⟨digits, rest, rfl, taken⟩ := exists_taken 2 behind
    exact ⟨.number .byte digits, rest, by simp [Part.written, NumberForm.opening,
      NumberForm.closing, isByte], taken, by simp; omega⟩
  by_cases isUnit : character = 'u'
  · subst isUnit
    obtain ⟨form, digits, rest, same, taken⟩ := exists_number behind
    refine ⟨.number form digits, rest, same, taken, ?_⟩
    have lengths := congrArg List.length same
    cases form <;>
      simp only [Part.written, NumberForm.opening, NumberForm.closing, List.length_append,
        List.length_cons] at lengths ⊢ <;> omega
  by_cases endsLine : [character] ∈ lineEnds
  · by_cases both : character = '\r' ∧ behind.head? = some '\n'
    · obtain ⟨rfl, first⟩ := both
      obtain ⟨rest, rfl⟩ := List.head?_eq_some_iff.mp first
      exact ⟨.continuation ['\r', '\n'], rest, rfl, ⟨by decide, by simp⟩, by simp; omega⟩
    · refine ⟨.continuation [character], behind, rfl, ⟨endsLine, fun same => ?_⟩, by simp⟩
      exact fun first => both ⟨List.singleton_injective same, first⟩
  by_cases isNull : character = '0' ∧ behind.head?.any Char.isDigit = false
  · exact ⟨.null, behind, by rw [isNull.1]; rfl, isNull.2, by simp⟩
  · refine ⟨.escaped character, behind, rfl, ⟨isByte, isUnit, endsLine, fun isZero => ?_⟩, by simp⟩
    simpa [isZero] using isNull

/-- Every text begins with a part that fits before what follows. -/
theorem exists_first (character : Char) (behind : List Char) :
    ∃ part : Part, ∃ rest, character :: behind = part.written ++ rest ∧ part.Fits rest ∧
      rest.length ≤ behind.length := by
  by_cases backslash : character = '\\'
  · exact backslash ▸ exists_escape behind
  · exact ⟨.plain character, behind, rfl, fun same => absurd same backslash, le_rfl⟩

theorem exists_divides (body : List Char) : ∃ parts, Divides body parts := by
  induction length : body.length using Nat.strong_induction_on generalizing body with
  | _ size ih =>
    cases body with
    | nil => exact ⟨[], rfl, trivial⟩
    | cons character behind =>
      obtain ⟨part, rest, same, fits, shorter⟩ := exists_first character behind
      have less : rest.length < size := by
        rw [← length, List.length_cons]
        exact Nat.lt_succ_of_le shorter
      obtain ⟨parts, written, together⟩ := ih rest.length less rest rfl
      refine ⟨part :: parts, ?_, written ▸ fits, together⟩
      rw [List.flatMap_cons, written, same]

end Division

section Decoding

theorem hexCharacter?_eq (digits : List Char) : hexCharacter? digits =
    if GivesCharacter digits then some (Char.ofNat (hexadecimalValue (unsigned digits)))
    else none := by
  have same : hexCharacter? digits =
      if unsigned digits = [] then none
      else (Json.hexNumber? (unsigned digits)).bind codePoint? := rfl
  rw [same, hexNumber?_eq]
  by_cases empty : unsigned digits = []
  · rw [if_pos empty, if_neg fun gives => gives.1 empty]
  by_cases all : AreHexadecimal (unsigned digits)
  · have only : GivesCharacter digits ↔ (hexadecimalValue (unsigned digits)).isValidChar :=
      ⟨fun gives => gives.2.2, fun valid => ⟨empty, all, valid⟩⟩
    rw [if_neg empty, if_pos all, Option.bind_some, codePoint?_eq]
    simp only [only]
  · rw [if_neg empty, if_neg all, if_neg fun gives => all gives.2.1, Option.bind_none]

theorem decodedOr_eq (digits written : List Char) : decodedOr digits written =
    if GivesCharacter digits then [Char.ofNat (hexadecimalValue (unsigned digits))]
    else written := by
  rw [decodedOr, hexCharacter?_eq]
  split_ifs <;> rfl

theorem getD_escapedControl? (character : Char) : (escapedControl? character).getD character =
    (singleEscapes.lookup character).getD character := by
  unfold escapedControl? singleEscapes
  simp only [List.lookup_cons, List.lookup_nil]
  grind

theorem decodeEscape_escaped {character : Char} (isEscaped : character ≠ 'x' ∧ character ≠ 'u' ∧
    character ≠ '\n' ∧ character ≠ '\r' ∧ character ≠ '0') (rest : List Char) :
    decodeEscape (character :: rest) =
      ([(singleEscapes.lookup character).getD character], rest) := by
  rw [← getD_escapedControl?]
  unfold decodeEscape
  split <;> simp_all

theorem take_taken {count : Nat} {digits rest : List Char}
    (taken : digits.length = count ∨ digits.length < count ∧ rest = []) :
    (digits ++ rest).take count = digits ∧ (digits ++ rest).drop count = rest := by
  rcases taken with rfl | ⟨few, rfl⟩
  · exact ⟨List.take_left .., List.drop_left ..⟩
  · rw [List.append_nil]
    exact ⟨List.take_of_length_le few.le, List.drop_eq_nil_of_le few.le⟩

theorem takeWhile_open {digits : List Char} (isOpen : '\x7d' ∉ digits) (rest : List Char)
    (closes : ∀ next ∈ rest.head?, next = '\x7d') :
    (digits ++ rest).takeWhile (· ≠ '\x7d') = digits ∧
      (digits ++ rest).dropWhile (· ≠ '\x7d') = rest := by
  have all : ∀ digit ∈ digits, decide (digit ≠ '\x7d') = true :=
    fun digit member => decide_eq_true fun same => isOpen (same ▸ member)
  rw [List.takeWhile_append_of_pos all, List.dropWhile_append_of_pos all]
  cases rest with
  | nil => simp
  | cons next rest =>
    obtain rfl := closes next rfl
    simp

theorem decodeEscape_return {rest : List Char} (alone : rest.head? ≠ some '\n') :
    decodeEscape ('\r' :: rest) = ([], rest) := by
  cases rest with
  | nil => rfl
  | cons first rest =>
    have apart : first ≠ '\n' := by simpa using alone
    simp [decodeEscape, apart]

theorem decodeEscape_byte (rest : List Char) : decodeEscape ('x' :: rest) =
    (decodedOr (rest.take 2) ('\\' :: 'x' :: rest.take 2), rest.drop 2) := rfl

theorem decodeEscape_unit {rest : List Char} (unbraced : rest.head? ≠ some '\x7b') :
    decodeEscape ('u' :: rest) =
      (decodedOr (rest.take 4) ('\\' :: 'u' :: rest.take 4), rest.drop 4) := by
  cases rest with
  | nil => rfl
  | cons first rest =>
    have apart : first ≠ '\x7b' := by simpa using unbraced
    simp [decodeEscape, apart]

theorem decodeEscape_brace (rest : List Char) : decodeEscape ('u' :: '\x7b' :: rest) =
    (decodedOr (rest.takeWhile (· ≠ '\x7d'))
      ('\\' :: 'u' :: '\x7b' :: (rest.takeWhile (· ≠ '\x7d') ++ ['\x7d'])),
      (rest.dropWhile (· ≠ '\x7d')).drop 1) := rfl

/-- An escape by number is decoded as far as it goes. -/
theorem decodeEscape_number {form : NumberForm} {digits rest : List Char}
    (takes : form.Takes digits rest) :
    decodeEscape (form.opening.tail ++ (digits ++ (form.closing ++ rest))) =
      ((Part.number form digits).given, rest) := by
  cases form with
  | byte =>
    obtain ⟨taken, dropped⟩ := take_taken takes
    change decodeEscape ('x' :: (digits ++ rest)) = _
    rw [decodeEscape_byte, taken, dropped, decodedOr_eq]
    simp [Part.given, NumberForm.opening, NumberForm.closing]
  | unit =>
    obtain ⟨unbraced, counted⟩ := takes
    obtain ⟨taken, dropped⟩ := take_taken counted
    change decodeEscape ('u' :: (digits ++ rest)) = _
    rw [decodeEscape_unit unbraced, taken, dropped, decodedOr_eq]
    simp [Part.given, NumberForm.opening, NumberForm.closing]
  | braced =>
    obtain ⟨taken, dropped⟩ := takeWhile_open takes ('\x7d' :: rest) (by simp)
    change decodeEscape ('u' :: '\x7b' :: (digits ++ '\x7d' :: rest)) = _
    rw [decodeEscape_brace, taken, dropped, decodedOr_eq]
    simp [Part.given, NumberForm.opening, NumberForm.closing]
  | unclosed =>
    obtain ⟨isOpen, rfl⟩ := takes
    obtain ⟨taken, dropped⟩ := takeWhile_open isOpen [] (by simp)
    change decodeEscape ('u' :: '\x7b' :: (digits ++ [])) = _
    rw [decodeEscape_brace, taken, dropped, decodedOr_eq]
    simp [Part.given, NumberForm.opening, NumberForm.closing]

theorem NumberForm.opening_eq (form : NumberForm) : form.opening = '\\' :: form.opening.tail := by
  cases form <;> rfl

theorem decodeBody_number {form : NumberForm} {digits rest : List Char}
    (takes : form.Takes digits rest) :
    decodeBody ((Part.number form digits).written ++ rest) =
      (Part.number form digits).given ++ decodeBody rest := by
  have written : (Part.number form digits).written ++ rest =
      '\\' :: (form.opening.tail ++ (digits ++ (form.closing ++ rest))) := by
    rw [Part.written, form.opening_eq]
    simp
  rw [written, decodeBody_backslash, decodeEscape_number takes]

theorem Part.Fits.decodeBody_eq {part : Part} {rest : List Char} (fits : part.Fits rest) :
    decodeBody (part.written ++ rest) = part.given ++ decodeBody rest := by
  cases part with
  | plain character =>
    by_cases backslash : character = '\\'
    · obtain rfl := fits backslash
      rw [backslash]
      rfl
    · exact decodeBody_plain backslash rest
  | escaped character =>
    obtain ⟨notByte, notUnit, inLine, ofZero⟩ := fits
    have escape : decodeEscape (character :: rest) =
        ([(singleEscapes.lookup character).getD character], rest) := by
      by_cases isZero : character = '0'
      · subst isZero
        rw [decodeEscape, if_pos (ofZero rfl)]
        rfl
      · refine decodeEscape_escaped ⟨notByte, notUnit, ?_, ?_, isZero⟩ rest <;>
          rintro rfl <;> exact inLine (by decide)
    rw [Part.written, List.cons_append, decodeBody_backslash, List.singleton_append, escape,
      Part.given]
  | null =>
    have last : rest.head?.any Char.isDigit = false := fits
    simp [Part.written, Part.given, decodeBody_backslash, decodeEscape, last]
  | continuation ending =>
    obtain ⟨known, unpaired⟩ := fits
    rw [Part.written, List.cons_append, decodeBody_backslash]
    simp only [lineEnds, List.mem_cons, List.not_mem_nil, or_false] at known
    rcases known with rfl | rfl | rfl | rfl | rfl
    case inr.inl =>
      rw [List.singleton_append, decodeEscape_return (unpaired rfl)]
      rfl
    all_goals rfl
  | number form digits => exact decodeBody_number fits

theorem FitTogether.decodeBody_eq {parts : List Part} (together : FitTogether parts) :
    decodeBody (parts.flatMap Part.written) = parts.flatMap Part.given := by
  induction parts with
  | nil => rfl
  | cons part rest ih =>
    rw [List.flatMap_cons, together.1.decodeBody_eq, ih together.2, List.flatMap_cons]

end Decoding

section Meaning

theorem not_isHexadecimal_plus : ¬ IsHexadecimal '+' := by decide

theorem NumberForm.WellFormed.unsigned_eq {form : NumberForm} {digits : List Char}
    (formed : form.WellFormed digits) : unsigned digits = digits := by
  unfold unsigned
  split
  · exact absurd (formed.1 '+' List.mem_cons_self) not_isHexadecimal_plus
  · rfl

theorem NumberForm.WellFormed.ne_nil {form : NumberForm} {digits : List Char}
    (formed : form.WellFormed digits) : digits ≠ [] := by
  rintro rfl
  obtain ⟨-, count⟩ := formed
  cases form <;> simp at count

theorem NumberForm.WellFormed.givesCharacter_iff {form : NumberForm} {digits : List Char}
    (formed : form.WellFormed digits) :
    GivesCharacter digits ↔ (hexadecimalValue digits).isValidChar := by
  rw [GivesCharacter, formed.unsigned_eq]
  exact ⟨fun gives => gives.2.2, fun valid => ⟨formed.ne_nil, formed.1, valid⟩⟩

theorem NumberForm.WellFormed.not_backslash {form : NumberForm} {digits : List Char}
    (formed : form.WellFormed digits) : '\\' ∉ digits := by
  intro covered
  have digit : IsHexadecimal '\\' := formed.1 '\\' covered
  revert digit
  decide

section Numbers

variable {form : NumberForm} {digits : List Char}

theorem value?_of_wellFormed (formed : form.WellFormed digits) (gives : GivesCharacter digits) :
    (Part.number form digits).value? = some [Char.ofNat (hexadecimalValue digits)] :=
  if_pos ⟨formed, formed.givesCharacter_iff.mp gives⟩

theorem value?_of_malformed (malformed : ¬ (form.WellFormed digits ∧ GivesCharacter digits)) :
    (Part.number form digits).value? =
      if '\\' ∈ digits then none else some (Part.number form digits).written :=
  if_neg fun both => malformed ⟨both.1, both.1.givesCharacter_iff.mpr both.2⟩

theorem length_written_number : 1 < (Part.number form digits).written.length := by
  cases form <;> simp [Part.written, NumberForm.opening]

theorem given_of_not_gives (keeps : ¬ GivesCharacter digits) :
    (Part.number form digits).given = (Part.number form digits).written ↔ form ≠ .unclosed := by
  rw [Part.given, if_neg keeps, Part.written]
  by_cases isOpen : form = .unclosed <;> simp [isOpen, NumberForm.closing]

theorem value?_number_eq_given_iff : (Part.number form digits).value? =
    some (Part.number form digits).given ↔ (Part.number form digits).Regular := by
  by_cases gives : GivesCharacter digits
  · by_cases formed : form.WellFormed digits
    · have closed : form ≠ .unclosed := by
        rintro rfl
        exact formed.2
      have regular : (Part.number form digits).Regular :=
        ⟨closed, formed.not_backslash, fun _ => formed⟩
      rw [iff_true_right regular, value?_of_wellFormed formed gives, Part.given, if_pos gives,
        formed.unsigned_eq]
    · have irregular : ¬ (Part.number form digits).Regular := fun regular =>
        formed (regular.2.2 gives)
      rw [iff_false_right irregular, value?_of_malformed fun both => formed both.1, Part.given,
        if_pos gives]
      intro same
      have long : 1 < (Part.number form digits).written.length := length_written_number
      rw [Option.some.inj (Option.ite_none_left_eq_some.mp same).2] at long
      exact absurd long (by simp)
  · have regular : (Part.number form digits).Regular ↔ '\\' ∉ digits ∧ form ≠ .unclosed :=
      ⟨fun regular => ⟨regular.2.1, regular.1⟩,
        fun both => ⟨both.2, both.1, fun given => absurd given gives⟩⟩
    rw [regular, value?_of_malformed fun both => gives both.2, Option.ite_none_left_eq_some,
      Option.some_inj, eq_comm, given_of_not_gives gives]

end Numbers

/-- The regular parts are those that contribute what they mean. -/
theorem Part.value?_eq_given_iff (part : Part) : part.value? = some part.given ↔ part.Regular := by
  cases part with
  | plain => exact iff_of_true rfl trivial
  | escaped => exact iff_of_true rfl trivial
  | null => exact iff_of_true rfl trivial
  | continuation ending =>
    by_cases separates : ending = ['\u2028'] ∨ ending = ['\u2029']
    · rcases separates with rfl | rfl <;> decide
    · exact iff_of_true (congrArg some (if_neg separates).symm) (not_or.mp separates)
  | number => exact value?_number_eq_given_iff

/-- Without pairs of halves, regular parts mean together what they contribute one by one. -/
theorem meaning?_of_regular {parts : List Part} (regular : ∀ part ∈ parts, part.Regular)
    (unpaired : parts.IsChain fun first second => first.pair? second = none) :
    meaning? parts = some (parts.flatMap Part.given) := by
  induction parts with
  | nil => rfl
  | cons first rest ih =>
    obtain ⟨regularFirst, regularRest⟩ := List.forall_mem_cons.mp regular
    have value := first.value?_eq_given_iff.mpr regularFirst
    cases rest with
    | nil => simp [meaning?, value]
    | cons second rest =>
      obtain ⟨apart, behind⟩ := List.isChain_cons_cons.mp unpaired
      rw [meaning?, apart, value, ih regularRest behind]
      rfl

end Meaning

/-- A body is divided into characters and escapes, and each part contributes its text to the
decoded one. That is what the part means in the language if and only if the part is regular, and it
is what the parts mean together unless two of them are the halves of a character. -/
theorem bodies_are_read_by_parts (body : List Char) :
    (∃ parts, Divides body parts) ∧
    ∀ parts, Divides body parts →
      decodeBody body = parts.flatMap Part.given ∧
      (∀ part ∈ parts, part.value? = some part.given ↔ part.Regular) ∧
      ((∀ part ∈ parts, part.Regular) →
        (parts.IsChain fun first second => first.pair? second = none) →
          meaning? parts = some (decodeBody body)) := by
  refine ⟨exists_divides body, fun parts divides => ?_⟩
  have whole : decodeBody body = parts.flatMap Part.given :=
    divides.written ▸ divides.fits.decodeBody_eq
  refine ⟨whole, fun part _ => part.value?_eq_given_iff, fun regular unpaired => ?_⟩
  rw [whole]
  exact meaning?_of_regular regular unpaired

/-- The parts of `n\n\0\x6E\u006e\u{1F600}`, an escape without digits and the end of a line. -/
def assorted : List Part :=
  [.plain 'n', .escaped 'n', .null, .number .byte ['6', 'E'], .number .unit ['0', '0', '6', 'e'],
    .number .braced ['1', 'F', '6', '0', '0'], .number .byte ['z', 'z'], .continuation ['\r', '\n']]

theorem bodies_are_read_by_parts_of_assorted :
    Divides (assorted.flatMap Part.written) assorted ∧ (∀ part ∈ assorted, part.Regular) ∧
      (assorted.IsChain fun first second => first.pair? second = none) ∧
      meaning? assorted = some (decodeBody (assorted.flatMap Part.written)) ∧
      decodeBody (assorted.flatMap Part.written) =
        ['n', '\n', '\x00', 'n', 'n', '😀', '\\', 'x', 'z', 'z'] := by
  have divides : Divides (assorted.flatMap Part.written) assorted := ⟨rfl, by decide +kernel⟩
  have regular : ∀ part ∈ assorted, part.Regular := by decide +kernel
  have unpaired : assorted.IsChain fun first second => first.pair? second = none := by
    decide +kernel
  have read := (bodies_are_read_by_parts (assorted.flatMap Part.written)).2 assorted divides
  exact ⟨divides, regular, unpaired, read.2.2 regular unpaired, by decide +kernel⟩

/-- The halves of a character keep their text, the backslash before a separator of lines leaves
this, a brace that is never closed gets one that closes it, and an escape without its digits keeps
the text of the one that it covers. -/
theorem irregular_parts_lose_their_meaning :
    (∃ parts, Divides "\\uD83D\\uDE00".toList parts ∧ meaning? parts = some ['😀'] ∧
      decodeBody "\\uD83D\\uDE00".toList = "\\uD83D\\uDE00".toList) ∧
    (∃ parts, Divides ['\\', '\u2028'] parts ∧ meaning? parts = some [] ∧
      decodeBody ['\\', '\u2028'] = ['\u2028']) ∧
    (∃ parts, Divides "\\u\x7bg".toList parts ∧ meaning? parts = some "\\u\x7bg".toList ∧
      decodeBody "\\u\x7bg".toList = "\\u\x7bg\x7d".toList) ∧
    ∃ parts, Divides "\\x\\n".toList parts ∧ meaning? parts = none ∧
      decodeBody "\\x\\n".toList = "\\x\\n".toList := by
  refine ⟨⟨[.number .unit ['D', '8', '3', 'D'], .number .unit ['D', 'E', '0', '0']], ?_⟩,
    ⟨[.continuation ['\u2028']], ?_⟩, ⟨[.number .unclosed ['g']], ?_⟩,
    ⟨[.number .byte ['\\', 'n']], ?_⟩⟩
  · exact ⟨⟨by decide +kernel, by decide +kernel⟩, by decide +kernel, by decide +kernel⟩
  · exact ⟨⟨by decide +kernel, by decide +kernel⟩, by decide +kernel, by decide +kernel⟩
  · exact ⟨⟨by decide +kernel, by decide +kernel⟩, by decide +kernel, by decide +kernel⟩
  · exact ⟨⟨by decide +kernel, by decide +kernel⟩, by decide +kernel, by decide +kernel⟩

end ExportIndex.TypeScript
