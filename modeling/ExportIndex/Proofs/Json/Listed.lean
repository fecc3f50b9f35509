import ExportIndex.Proofs.Json.Printed
import ExportIndex.Proofs.Json.TextList
import Mathlib

/-
This file defines how lists of strings are printed on one line: with all characters as they are, or
with characters beyond ASCII written by their numbers. Both are lists of these strings, and a line
by themselves.
-/

namespace ExportIndex.Json

/-- A string in quotes, each of whose characters is written as `spell` says. -/
def quotedBy (spell : Char → List Char) (name : String) : List Char :=
  '"' :: (name.toList.flatMap spell ++ ['"'])

/-- Strings between brackets. -/
def listed (spell : Char → List Char) (separator : List Char) (names : List String) : List Char :=
  '[' :: (separator.intercalate (names.map (quotedBy spell)) ++ [']'])

/-- The characters that have a mark when they are printed. -/
def printedMarks : List (Char × Char) :=
  [('"', '"'), ('\\', '\\'), ('\n', 'n'), ('\r', 'r'), ('\t', 't'), ('\x0c', 'f'), ('\x08', 'b')]

/-- The first of the two halves that make the character with a number. -/
def highHalf (code : Nat) : Nat := 0xd800 + (code - 0x10000) / 0x400

def lowHalf (code : Nat) : Nat := 0xdc00 + (code - 0x10000) % 0x400

/-- Characters that are no visible ASCII ones are written by their numbers, and by two halves where
16 bits are too few. -/
def asciiEscape (character : Char) : List Char :=
  match printedMarks.lookup character with
  | some mark => ['\\', mark]
  | none =>
    let code := character.toNat
    if 0x20 ≤ code ∧ code < 0x7f then [character]
    else if code < 0x10000 then codeEscape code
    else codeEscape (highHalf code) ++ codeEscape (lowHalf code)

/-- The list of strings in ASCII, with a space behind every comma. -/
def ascii (names : List String) : String :=
  String.ofList (listed asciiEscape [',', ' '] names)

section Spelled

theorem mem_marks_of_lookup {character mark : Char}
    (found : printedMarks.lookup character = some mark) : (mark, character) ∈ marks := by
  obtain ⟨before, after, same, -⟩ := List.lookup_eq_some_iff.mp found
  have all : ∀ entry ∈ printedMarks, entry.swap ∈ marks := by decide
  have member : (character, mark) ∈ printedMarks := by simp [same]
  exact all _ member

theorem spellsCharacter_halves {character : Char} (large : 0x10000 ≤ character.toNat) :
    SpellsCharacter (codeEscape (highHalf character.toNat) ++ codeEscape (lowHalf character.toNat))
      character := by
  have bound : character.toNat < 0x110000 := by
    have valid : character.toNat < 0xd800 ∨
        0xdfff < character.toNat ∧ character.toNat < 0x110000 := character.valid
    omega
  have isHigh : 0xd800 ≤ highHalf character.toNat ∧ highHalf character.toNat < 0xdc00 := by
    unfold highHalf
    omega
  have isLow : 0xdc00 ≤ lowHalf character.toNat ∧ lowHalf character.toNat < 0xe000 := by
    unfold lowHalf
    omega
  have joined : character.toNat =
      joinedCode (highHalf character.toNat) (lowHalf character.toNat) := by
    unfold joinedCode highHalf lowHalf
    omega
  exact .halves (spellsCode_codeEscape (by omega)) (spellsCode_codeEscape (by omega)) isHigh isLow
    joined

theorem spellsCharacter_asciiEscape (character : Char) :
    SpellsCharacter (asciiEscape character) character := by
  unfold asciiEscape
  split
  · next mark found => exact .plain (.marked (mem_marks_of_lookup found))
  · next missing =>
    have unmarked : ∀ entry ∈ printedMarks, character ≠ entry.1 := fun entry member =>
      bne_iff_ne.mp (List.lookup_eq_none_iff.mp missing entry member)
    dsimp only
    split_ifs with visible small
    · exact .plain (.itself (unmarked ('"', '"') (by decide)) (unmarked ('\\', '\\') (by decide))
        visible.1)
    · exact .numbered (spellsCode_codeEscape small)
    · exact spellsCharacter_halves (Nat.le_of_not_lt small)

section Listed

variable {spell : Char → List Char}
  (spells : ∀ character, SpellsCharacter (spell character) character)

include spells

theorem spellsItems_intercalate {blanks : List Char} (blank : Blank blanks) (name : String)
    (names : List String) :
    SpellsItems ((',' :: blanks).intercalate ((name :: names).map (quotedBy spell)) ++ [']'])
      (name :: names) := by
  induction names generalizing name with
  | nil =>
    have last := SpellsItems.last (spellsAll_flatMap spells name.toList) blank_nil
    simpa [quotedBy] using last
  | cons second rest ih =>
    have more := SpellsItems.more (spellsAll_flatMap spells name.toList) blank_nil blank (ih second)
    simpa [quotedBy, List.intercalate_cons_cons] using more

theorem spellsTexts_listed {blanks : List Char} (blank : Blank blanks) (names : List String) :
    SpellsTexts (listed spell (',' :: blanks) names) names := by
  cases names with
  | nil => exact .empty blank_nil
  | cons name names =>
    have filled := SpellsTexts.filled blank_nil (spellsItems_intercalate spells blank name names)
    exact filled

end Listed

end Spelled

section Line

theorem newline_notMem_of_spellsCode {text : List Char} {code : Nat}
    (spelled : SpellsCode text code) : '\n' ∉ text := by
  obtain ⟨_, areDigits⟩ := spelled
  have no : ¬ IsHexadecimal '\n' := by decide
  have outside := mt (areDigits '\n') no
  simp [outside]

/-- No character is spelled with the end of a line. -/
theorem newline_notMem_of_spellsCharacter {text : List Char} {character : Char}
    (spelled : SpellsCharacter text character) : '\n' ∉ text := by
  cases spelled with
  | plain plainly =>
    cases plainly with
    | itself _ _ printable =>
      intro member
      obtain rfl := List.mem_singleton.mp member
      exact absurd printable (by decide)
    | marked stands =>
      have all : ∀ entry ∈ marks, '\n' ∉ ['\\', entry.1] := by decide
      exact all _ stands
  | numbered code => exact newline_notMem_of_spellsCode code
  | halves high low =>
    intro member
    obtain member | member := List.mem_append.mp member
    · exact newline_notMem_of_spellsCode high member
    · exact newline_notMem_of_spellsCode low member

theorem forall_mem_intercalate {A : Type} {holds : A → Prop} {separator : List A}
    {parts : List (List A)} (ofSeparator : ∀ item ∈ separator, holds item)
    (ofParts : ∀ part ∈ parts, ∀ item ∈ part, holds item) :
    ∀ item ∈ separator.intercalate parts, holds item := by
  induction parts with
  | nil => simp
  | cons part rest ih =>
    obtain ⟨first, others⟩ := List.forall_mem_cons.mp ofParts
    cases rest with
    | nil => simpa using first
    | cons second rest =>
      rw [List.intercalate_cons_cons]
      exact List.forall_mem_append.mpr
        ⟨List.forall_mem_append.mpr ⟨first, ofSeparator⟩, ih others⟩

theorem newline_notMem_listed {spell : Char → List Char} {separator : List Char}
    (spells : ∀ character, SpellsCharacter (spell character) character)
    (inLine : '\n' ∉ separator) (names : List String) :
    '\n' ∉ listed spell separator names := by
  have inName (name : String) : '\n' ∉ quotedBy spell name := by
    simp [quotedBy, newline_notMem_of_spellsCharacter (spells _)]
  have inNames : ∀ character ∈ separator.intercalate (names.map (quotedBy spell)),
      character ≠ '\n' := by
    apply forall_mem_intercalate
    · intro character member same
      exact inLine (same ▸ member)
    · intro part member character inPart same
      obtain ⟨name, -, rfl⟩ := List.mem_map.mp member
      exact inName name (same ▸ inPart)
  simp only [listed, List.mem_cons, List.mem_append, List.mem_nil_iff, not_or]
  exact ⟨by decide, fun member => inNames _ member rfl, by decide, not_false⟩

end Line

theorem compactItems_texts (names : List String) :
    compactItems (names.map text) = names.map quote := by
  induction names with
  | nil => rfl
  | cons name rest ih => rw [List.map_cons, compactItems, compact, ih, List.map_cons]

/-- The printer without spaces prints a list of strings with most characters as they are. -/
theorem toList_compact_texts (names : List String) :
    (list (names.map text)).compact.toList = listed escape [','] names := by
  have quoted : String.toList ∘ quote = quotedBy escape := by
    funext name
    exact toList_quote name
  simp [compact, compactItems_texts, String.toList_intercalate, listed, quoted]

end ExportIndex.Json
