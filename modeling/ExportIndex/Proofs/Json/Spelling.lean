import ExportIndex.Json.Printer
import ExportIndex.Proofs.Json.Hexadecimal
import Mathlib

/-
This file says in which ways a string can be written in JSON, and shows that the reader understands
all of them and no others. The printers write strings in one of these ways.
-/

namespace ExportIndex.Json

/-- The marks behind a backslash and the characters that they stand for. -/
def marks : List (Char × Char) :=
  [('"', '"'), ('\\', '\\'), ('/', '/'), ('b', '\x08'), ('f', '\x0c'), ('n', '\n'), ('r', '\r'),
    ('t', '\t')]

/-- A text spells a character without a number. -/
inductive SpellsPlainly : List Char → Char → Prop
  | itself {character : Char} (quote : character ≠ '"') (backslash : character ≠ '\\')
      (printable : 0x20 ≤ character.toNat) : SpellsPlainly [character] character
  | marked {mark character : Char} (stands : (mark, character) ∈ marks) :
      SpellsPlainly ['\\', mark] character

/-- A text spells a number of 16 bits by its four digits. -/
inductive SpellsCode : List Char → Nat → Prop
  | mk {digits : List Char} (four : digits.length = 4) (areDigits : AreHexadecimal digits) :
      SpellsCode ('\\' :: 'u' :: digits) (hexadecimalValue digits)

/-- The number of the character that two halves make. -/
def joinedCode (high low : Nat) : Nat := 0x10000 + (high - 0xd800) * 0x400 + (low - 0xdc00)

/-- A text spells one character. -/
inductive SpellsCharacter : List Char → Char → Prop
  | plain {text : List Char} {character : Char} (spelled : SpellsPlainly text character) :
      SpellsCharacter text character
  | numbered {text : List Char} {character : Char} (spelled : SpellsCode text character.toNat) :
      SpellsCharacter text character
  | halves {first second : List Char} {high low : Nat} {character : Char}
      (spelledHigh : SpellsCode first high) (spelledLow : SpellsCode second low)
      (isHigh : 0xd800 ≤ high ∧ high < 0xdc00) (isLow : 0xdc00 ≤ low ∧ low < 0xe000)
      (joined : character.toNat = joinedCode high low) : SpellsCharacter (first ++ second) character

/-- A text consists of the spellings of items, one behind the other. -/
inductive SpellsAll {A : Type} (spells : List Char → A → Prop) : List Char → List A → Prop
  | nil : SpellsAll spells [] []
  | cons {text rest : List Char} {item : A} {items : List A} (spelled : spells text item)
      (others : SpellsAll spells rest items) : SpellsAll spells (text ++ rest) (item :: items)

/-- A text spells a piece of a string. -/
inductive SpellsPiece : List Char → Piece → Prop
  | character {text : List Char} {value : Char} (spelled : SpellsPlainly text value) :
      SpellsPiece text (.character value)
  | unit {text : List Char} {value : Nat} (spelled : SpellsCode text value) :
      SpellsPiece text (.unit value)

/-- How a number of 16 bits is printed. -/
def codeEscape (code : Nat) : List Char :=
  ['\\', 'u', hexDigit (code / 0x1000), hexDigit (code / 0x100), hexDigit (code / 0x10),
    hexDigit code]

theorem simpleEscape?_eq_some {mark character : Char} :
    simpleEscape? mark = some character ↔ (mark, character) ∈ marks := by
  constructor
  · intro stands
    unfold simpleEscape? at stands
    split_ifs at stands with itself
    · simp only [Bool.or_eq_true, decide_eq_true_eq] at itself
      obtain rfl := Option.some.inj stands
      obtain (rfl | rfl) | rfl := itself <;> decide
    all_goals
      obtain rfl := Option.some.inj stands
      subst_vars
      decide
  · have all : ∀ entry ∈ marks, simpleEscape? entry.1 = some entry.2 := by decide
    exact all (mark, character)

section Pieces

theorem readPieces_mark {mark character : Char} (stands : (mark, character) ∈ marks)
    (rest : List Char) :
    readPieces ('\\' :: mark :: rest) =
      (readPieces rest).map fun (pieces, rest) => (.character character :: pieces, rest) := by
  have apart : mark ≠ 'u' := by
    rintro rfl
    cases simpleEscape?_eq_some.mpr stands
  simp [readPieces, apart, simpleEscape?_eq_some.mpr stands, Option.map_eq_bind]

theorem readPieces_code {first second third fourth : Char} {code : Nat}
    (number : hexNumber? [first, second, third, fourth] = some code) (rest : List Char) :
    readPieces ('\\' :: 'u' :: first :: second :: third :: fourth :: rest) =
      (readPieces rest).map fun (pieces, rest) => (.unit code :: pieces, rest) := by
  simp [readPieces, number, Option.map_eq_bind]

theorem readPieces_plain {character : Char} (quote : character ≠ '"')
    (backslash : character ≠ '\\') (printable : 0x20 ≤ character.toNat) (rest : List Char) :
    readPieces (character :: rest) =
      (readPieces rest).map fun (pieces, rest) => (.character character :: pieces, rest) := by
  have visible : ¬ character.toNat < 0x20 := Nat.not_lt.mpr printable
  simp [readPieces, backslash, visible, Option.map_eq_bind]

theorem SpellsPiece.readPieces {text : List Char} {piece : Piece}
    (spelled : SpellsPiece text piece) (rest : List Char) :
    readPieces (text ++ rest) =
      (readPieces rest).map fun (pieces, rest) => (piece :: pieces, rest) := by
  cases spelled with
  | character spelled =>
    cases spelled with
    | itself quote backslash printable => exact readPieces_plain quote backslash printable rest
    | marked stands => exact readPieces_mark stands rest
  | unit spelled =>
    obtain ⟨four, areDigits⟩ := spelled
    obtain ⟨first, second, third, fourth, rfl⟩ := List.length_eq_four.mp four
    apply readPieces_code
    rw [hexNumber?_eq, if_pos areDigits]

theorem SpellsAll.readPieces {text : List Char} {pieces : List Piece}
    (spelled : SpellsAll SpellsPiece text pieces) (rest : List Char) :
    readPieces (text ++ '"' :: rest) = some (pieces, rest) := by
  induction spelled with
  | nil => rfl
  | cons first others ih => rw [List.append_assoc, first.readPieces, ih, Option.map_some]

theorem exists_spelledPieces {characters rest : List Char} {pieces : List Piece}
    (reads : readPieces characters = some (pieces, rest)) :
    ∃ text, characters = text ++ '"' :: rest ∧ SpellsAll SpellsPiece text pieces := by
  have more {text others : List Char} {piece : Piece} {pieces : List Piece}
      (spelled : SpellsPiece text piece)
      (behind : ∃ text, others = text ++ '"' :: rest ∧ SpellsAll SpellsPiece text pieces) :
      ∃ whole, text ++ others = whole ++ '"' :: rest ∧
        SpellsAll SpellsPiece whole (piece :: pieces) := by
    obtain ⟨body, rfl, spelledOthers⟩ := behind
    exact ⟨text ++ body, (List.append_assoc ..).symm, .cons spelled spelledOthers⟩
  induction characters using readPieces.induct generalizing pieces with
  | case1 => cases reads
  | case2 behind =>
    simp only [readPieces, Option.some.injEq, Prod.mk.injEq] at reads
    obtain ⟨rfl, rfl⟩ := reads
    exact ⟨[], rfl, .nil⟩
  | case3 first second third fourth behind ih =>
    simp only [readPieces, Option.bind_eq_bind, Option.bind_eq_some_iff, Option.pure_def,
      Option.some.injEq, Prod.mk.injEq] at reads
    obtain ⟨code, number, ⟨others, _⟩, readsOthers, rfl, rfl⟩ := reads
    rw [hexNumber?_eq] at number
    split_ifs at number with areDigits
    obtain rfl := Option.some.inj number
    exact more (.unit (.mk rfl areDigits)) (ih readsOthers)
  | case4 escaped behind distinct ih =>
    rw [readPieces] at reads
    · simp only [Option.bind_eq_bind, Option.bind_eq_some_iff, Option.pure_def,
        Option.some.injEq, Prod.mk.injEq] at reads
      obtain ⟨value, stands, ⟨others, _⟩, readsOthers, rfl, rfl⟩ := reads
      exact more (.character (.marked (simpleEscape?_eq_some.mp stands))) (ih readsOthers)
    · exact distinct
  | case5 character behind quote number mark control =>
    rw [readPieces, if_pos control] at reads
    · cases reads
    all_goals assumption
  | case6 character behind quote number mark control ih =>
    rw [readPieces, if_neg control] at reads
    · simp only [Option.bind_eq_bind, Option.bind_eq_some_iff, Option.pure_def,
        Option.some.injEq, Prod.mk.injEq] at reads
      obtain ⟨⟨others, _⟩, readsOthers, rfl, rfl⟩ := reads
      have backslash : character ≠ '\\' := by
        rintro rfl
        cases behind with
        | nil => cases readsOthers
        | cons escaped behind => exact mark escaped behind rfl rfl
      exact more (.character (.itself quote backslash (Nat.le_of_not_lt control))) (ih readsOthers)
    all_goals assumption

/-- The reader goes to the quote behind the spellings of pieces. -/
theorem readPieces_eq_some {characters rest : List Char} {pieces : List Piece} :
    readPieces characters = some (pieces, rest) ↔
      ∃ text, characters = text ++ '"' :: rest ∧ SpellsAll SpellsPiece text pieces := by
  constructor
  · exact exists_spelledPieces
  · intro written
    obtain ⟨text, rfl, spelled⟩ := written
    exact spelled.readPieces rest

end Pieces

section Characters

/-- A number that is no half stands for a character by itself. -/
theorem joinPieces_unit {code : Nat} (high : isHighHalf code = false)
    (low : isLowHalf code = false) (rest : List Piece) :
    joinPieces (.unit code :: rest) = (joinPieces rest).map (Char.ofNat code :: ·) := by
  rcases rest with - | ⟨_ | _, rest⟩ <;> simp [joinPieces, high, low]

theorem joinPieces_halves {high low : Nat} (isHigh : isHighHalf high = true)
    (isLow : isLowHalf low = true) (rest : List Piece) :
    joinPieces (.unit high :: .unit low :: rest) =
      (joinPieces rest).map (Char.ofNat (joinedCode high low) :: ·) := by
  rw [joinPieces, if_pos isHigh, if_pos isLow]
  rfl

theorem isHighHalf_iff {code : Nat} : isHighHalf code = true ↔ 0xd800 ≤ code ∧ code < 0xdc00 := by
  simp [isHighHalf]

theorem isLowHalf_iff {code : Nat} : isLowHalf code = true ↔ 0xdc00 ≤ code ∧ code < 0xe000 := by
  simp [isLowHalf]

/-- The number of a character is no half. -/
theorem not_isHalf (character : Char) :
    isHighHalf character.toNat = false ∧ isLowHalf character.toNat = false := by
  have valid : character.toNat < 0xd800 ∨ 0xdfff < character.toNat ∧ character.toNat < 0x110000 :=
    character.valid
  rw [← Bool.not_eq_true, ← Bool.not_eq_true, isHighHalf_iff, isLowHalf_iff]
  omega

theorem SpellsAll.exists_pieces {text characters : List Char}
    (spelled : SpellsAll SpellsCharacter text characters) :
    ∃ pieces, SpellsAll SpellsPiece text pieces ∧ joinPieces pieces = some characters := by
  induction spelled with
  | nil => exact ⟨[], .nil, rfl⟩
  | @cons _ _ character _ first _ ih =>
    obtain ⟨pieces, others, joins⟩ := ih
    cases first with
    | plain spelled =>
      refine ⟨.character character :: pieces, .cons (.character spelled) others, ?_⟩
      rw [joinPieces, joins, Option.map_some]
    | numbered spelled =>
      refine ⟨.unit character.toNat :: pieces, .cons (.unit spelled) others, ?_⟩
      obtain ⟨high, low⟩ := not_isHalf character
      rw [joinPieces_unit high low, joins, Option.map_some, Char.ofNat_toNat]
    | @halves _ _ high low _ spelledHigh spelledLow isHigh isLow joined =>
      refine ⟨.unit high :: .unit low :: pieces, ?_, ?_⟩
      · rw [List.append_assoc]
        exact .cons (.unit spelledHigh) (.cons (.unit spelledLow) others)
      · rw [joinPieces_halves (isHighHalf_iff.mpr isHigh) (isLowHalf_iff.mpr isLow), joins,
          Option.map_some, ← joined, Char.ofNat_toNat]

theorem SpellsCode.lt {text : List Char} {code : Nat} (spelled : SpellsCode text code) :
    code < 0x10000 := by
  obtain ⟨four, areDigits⟩ := spelled
  have below := hexadecimalValue_lt areDigits
  rwa [four] at below

theorem SpellsCode.whole {text : List Char} {code : Nat} (spelled : SpellsCode text code)
    (high : ¬ isHighHalf code = true) (low : ¬ isLowHalf code = true) :
    SpellsCharacter text (Char.ofNat code) := by
  have valid : code.isValidChar := by
    have below := spelled.lt
    rw [isHighHalf_iff] at high
    rw [isLowHalf_iff] at low
    show code < 0xd800 ∨ 0xdfff < code ∧ code < 0x110000
    omega
  have same : (Char.ofNat code).toNat = code := by rw [Char.toNat_ofNat, if_pos valid]
  exact .numbered (same.symm ▸ spelled)

theorem SpellsCode.joined {first second : List Char} {high low : Nat}
    (spelledHigh : SpellsCode first high) (spelledLow : SpellsCode second low)
    (isHigh : isHighHalf high = true) (isLow : isLowHalf low = true) :
    SpellsCharacter (first ++ second) (Char.ofNat (joinedCode high low)) := by
  rw [isHighHalf_iff] at isHigh
  rw [isLowHalf_iff] at isLow
  apply SpellsCharacter.halves spelledHigh spelledLow isHigh isLow
  rw [Char.toNat_ofNat, if_pos]
  show joinedCode high low < 0xd800 ∨ 0xdfff < joinedCode high low ∧ joinedCode high low < 0x110000
  unfold joinedCode
  omega

theorem SpellsAll.of_pieces {text characters : List Char} {pieces : List Piece}
    (spelled : SpellsAll SpellsPiece text pieces) (joins : joinPieces pieces = some characters) :
    SpellsAll SpellsCharacter text characters := by
  induction pieces using joinPieces.induct generalizing text characters with
  | case1 =>
    cases spelled
    cases joins
    exact .nil
  | case2 value rest ih =>
    obtain _ | ⟨first, others⟩ := spelled
    obtain ⟨behind, joinsBehind, rfl⟩ := Option.map_eq_some_iff.mp joins
    cases first with
    | character plain => exact .cons (.plain plain) (ih others joinsBehind)
  | case3 high low rest isHigh isLow ih =>
    obtain _ | ⟨⟨⟩ | ⟨first⟩, _ | ⟨⟨⟩ | ⟨second⟩, others⟩⟩ := spelled
    rw [joinPieces_halves isHigh isLow] at joins
    obtain ⟨behind, joinsBehind, rfl⟩ := Option.map_eq_some_iff.mp joins
    rw [← List.append_assoc]
    exact .cons (first.joined second isHigh isLow) (ih others joinsBehind)
  | case4 high low rest isHigh isLow =>
    rw [joinPieces, if_pos isHigh, if_neg isLow] at joins
    cases joins
  | case5 high low rest isHigh isLow =>
    rw [joinPieces, if_neg isHigh, if_pos isLow] at joins
    cases joins
  | case6 high low rest isHigh isLow ih =>
    obtain _ | ⟨⟨⟩ | ⟨first⟩, others⟩ := spelled
    rw [joinPieces, if_neg isHigh, if_neg isLow] at joins
    obtain ⟨behind, joinsBehind, rfl⟩ := Option.map_eq_some_iff.mp joins
    exact .cons (first.whole isHigh isLow) (ih others joinsBehind)
  | case7 value rest single isHalf =>
    rw [joinPieces, if_pos isHalf] at joins
    · cases joins
    · exact single
  | case8 value rest single isHalf ih =>
    obtain _ | ⟨⟨⟩ | ⟨first⟩, others⟩ := spelled
    rw [joinPieces, if_neg isHalf] at joins
    · obtain ⟨behind, joinsBehind, rfl⟩ := Option.map_eq_some_iff.mp joins
      obtain ⟨isHigh, isLow⟩ := not_or.mp (mt Bool.or_eq_true_iff.mpr isHalf)
      exact .cons (first.whole isHigh isLow) (ih others joinsBehind)
    · exact single

/-- The reader goes to the quote behind the spellings of characters. -/
theorem readText_eq_some {characters rest text : List Char} :
    readText characters = some (text, rest) ↔
      ∃ body, characters = body ++ '"' :: rest ∧ SpellsAll SpellsCharacter body text := by
  simp only [readText, Option.bind_eq_bind, Option.bind_eq_some_iff, Option.pure_def,
    Option.some.injEq, Prod.mk.injEq]
  constructor
  · intro read
    obtain ⟨⟨pieces, _⟩, reads, _, joins, rfl, rfl⟩ := read
    obtain ⟨body, same, spelled⟩ := readPieces_eq_some.mp reads
    exact ⟨body, same, spelled.of_pieces joins⟩
  · intro written
    obtain ⟨body, rfl, spelled⟩ := written
    obtain ⟨pieces, spelled, joins⟩ := spelled.exists_pieces
    exact ⟨(pieces, rest), spelled.readPieces rest, text, joins, rfl, rfl⟩

end Characters

section Escapes

/-- A character is escaped by a mark, by its number, or not at all. -/
theorem escape_cases (character : Char) :
    (∃ mark, (mark, character) ∈ marks ∧ escape character = ['\\', mark]) ∨
      (character.toNat < 0x20 ∧ escape character =
        ['\\', 'u', '0', '0', hexDigit (character.toNat / 16), hexDigit character.toNat]) ∨
      (character ≠ '"' ∧ character ≠ '\\' ∧ 0x20 ≤ character.toNat ∧
        escape character = [character]) := by
  unfold escape
  split_ifs with quote backslash backspace tab newline feed back control
  · exact .inl ⟨'"', by rw [quote]; decide, rfl⟩
  · exact .inl ⟨'\\', by rw [backslash]; decide, rfl⟩
  · exact .inl ⟨'b', by rw [backspace]; decide, rfl⟩
  · exact .inl ⟨'t', by rw [tab]; decide, rfl⟩
  · exact .inl ⟨'n', by rw [newline]; decide, rfl⟩
  · exact .inl ⟨'f', by rw [feed]; decide, rfl⟩
  · exact .inl ⟨'r', by rw [back]; decide, rfl⟩
  · exact .inr (.inl ⟨control, rfl⟩)
  · exact .inr (.inr ⟨quote, backslash, Nat.le_of_not_lt control, rfl⟩)

theorem hexNumber?_control : ∀ code < 0x20,
    hexNumber? ['0', '0', hexDigit (code / 16), hexDigit code] = some code := by
  decide

theorem hexDigit_spells : ∀ value < 16,
    IsHexadecimal (Nat.digitChar value) ∧ digitValue (Nat.digitChar value) = value := by
  decide

theorem isHexadecimal_hexDigit (value : Nat) : IsHexadecimal (hexDigit value) :=
  (hexDigit_spells (value % 16) (Nat.mod_lt value (by decide))).1

theorem digitValue_hexDigit (value : Nat) : digitValue (hexDigit value) = value % 16 :=
  (hexDigit_spells (value % 16) (Nat.mod_lt value (by decide))).2

theorem spellsCode_codeEscape {code : Nat} (small : code < 0x10000) :
    SpellsCode (codeEscape code) code := by
  have value : hexadecimalValue [hexDigit (code / 0x1000), hexDigit (code / 0x100),
      hexDigit (code / 0x10), hexDigit code] = code := by
    simp only [hexadecimalValue, List.foldl_cons, List.foldl_nil, digitValue_hexDigit]
    omega
  have spelled : SpellsCode (codeEscape code) _ :=
    .mk rfl (by simp [AreHexadecimal, isHexadecimal_hexDigit])
  rwa [value] at spelled

theorem spellsCharacter_escape (character : Char) :
    SpellsCharacter (escape character) character := by
  obtain ⟨mark, stands, escaped⟩ | ⟨control, escaped⟩ | ⟨quote, backslash, printable, escaped⟩ :=
    escape_cases character
  · rw [escaped]
    exact .plain (.marked stands)
  · have small : character.toNat / 0x1000 = 0 ∧ character.toNat / 0x100 = 0 := by omega
    have same : escape character = codeEscape character.toNat := by
      rw [escaped, codeEscape, small.1, small.2]
      rfl
    rw [same]
    exact .numbered (spellsCode_codeEscape (by omega))
  · rw [escaped]
    exact .plain (.itself quote backslash printable)

/-- Characters are spelled one by one. -/
theorem spellsAll_flatMap {spell : Char → List Char}
    (spells : ∀ character, SpellsCharacter (spell character) character) (characters : List Char) :
    SpellsAll SpellsCharacter (characters.flatMap spell) characters := by
  induction characters with
  | nil => exact .nil
  | cons character rest ih =>
    rw [List.flatMap_cons]
    exact .cons (spells character) ih

/-- A string that is quoted is read back. -/
theorem readText_quoted (characters rest : List Char) :
    readText (characters.flatMap escape ++ '"' :: rest) = some (characters, rest) :=
  readText_eq_some.mpr ⟨_, rfl, spellsAll_flatMap spellsCharacter_escape characters⟩

end Escapes

end ExportIndex.Json
