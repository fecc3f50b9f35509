import ExportIndex.Proofs.FilePath.Marks
import ExportIndex.Proofs.Json.Listed
import ExportIndex.Python.Interpreter
import Mathlib

/-
This file shows which names are taken from the output of a program: those that its last line lists,
blank lines aside, whatever the program printed before.
-/

namespace ExportIndex.Python

open Json (SpellsTexts listed)
open Text (isBlank trim trimStart trimEnd)

def AllBlank (characters : List Char) : Prop :=
  ∀ character ∈ characters, isBlank character = true

theorem AllBlank.append {first second : List Char} (blank : AllBlank first)
    (blankSecond : AllBlank second) : AllBlank (first ++ second) :=
  List.forall_mem_append.mpr ⟨blank, blankSecond⟩

section Trimming

theorem trim_eq_rdropWhile (line : List Char) :
    trim line = (line.dropWhile isBlank).rdropWhile isBlank := rfl

/-- Trimming takes blanks away from both ends. -/
theorem exists_trimmed (line : List Char) :
    ∃ left right, AllBlank left ∧ AllBlank right ∧ line = left ++ (trim line ++ right) := by
  refine ⟨line.takeWhile isBlank, (line.dropWhile isBlank).rtakeWhile isBlank,
    fun _ member => List.mem_takeWhile_imp member,
    fun _ member => List.mem_rtakeWhile_imp member, ?_⟩
  rw [trim_eq_rdropWhile, List.rdropWhile_append_rtakeWhile, List.takeWhile_append_dropWhile]

theorem trim_eq_nil {line : List Char} : trim line = [] ↔ AllBlank line := by
  constructor
  · intro nothing
    obtain ⟨left, right, blankLeft, blankRight, same⟩ := exists_trimmed line
    rw [nothing, List.nil_append] at same
    exact same ▸ blankLeft.append blankRight
  · intro blank
    rw [trim_eq_rdropWhile, List.dropWhile_eq_nil_iff.mpr blank, List.rdropWhile_nil]

/-- Blanks are all that trimming takes away. -/
theorem trim_append {left right : List Char} (blankLeft : AllBlank left)
    (blankRight : AllBlank right) {first last : Char} (solidFirst : ¬ isBlank first = true)
    (solidLast : ¬ isBlank last = true) (inner : List Char) :
    trim (left ++ (first :: (inner ++ [last]) ++ right)) = first :: (inner ++ [last]) := by
  have behind : (first :: (inner ++ [last]) ++ right).reverse =
      right.reverse ++ last :: (first :: inner).reverse := by simp
  have blankBehind : ∀ character ∈ right.reverse, isBlank character = true :=
    fun character member => blankRight character (List.mem_reverse.mp member)
  rw [trim, trimStart, List.dropWhile_append_of_pos blankLeft, List.cons_append,
    List.dropWhile_cons_of_neg solidFirst, ← List.cons_append, trimEnd, behind,
    List.dropWhile_append_of_pos blankBehind, List.dropWhile_cons_of_neg solidLast]
  simp

end Trimming

section Lines

/-- A line begins behind a text. -/
def BeginsLine (before : List Char) : Prop := before = [] ∨ before.getLast? = some '\n'

/-- A line ends before a text. -/
def EndsLine (after : List Char) : Prop := after = [] ∨ after.head? = some '\n'

/-- A part of an output is one of its lines. A carriage return before the end of a line counts as
one of its blanks. -/
structure IsLine (output before line after : List Char) : Prop where
  whole : output = before ++ (line ++ after)
  begins : BeginsLine before
  ends : EndsLine after
  single : '\n' ∉ line

theorem linesOf_eq_splitOn (characters : List Char) :
    linesOf characters = characters.splitOn '\n' :=
  FilePath.partsAt_eq_splitOn '\n' characters

theorem isBlank_newline : isBlank '\n' = true := rfl

theorem allBlank_linesOf {characters : List Char} :
    (∀ line ∈ linesOf characters, AllBlank line) ↔ AllBlank characters := by
  rw [linesOf_eq_splitOn]
  induction characters with
  | nil => simp [AllBlank]
  | cons character rest ih =>
    obtain ⟨part, parts, same⟩ := List.exists_cons_of_ne_nil (List.splitOn_ne_nil '\n' rest)
    rw [same] at ih
    rw [AllBlank, List.forall_mem_cons, ← AllBlank, ← ih, List.splitOn_cons_eq_if_modifyHead, same]
    by_cases isEnd : character = '\n'
    · simp [isEnd, isBlank_newline, AllBlank]
    · simp [isEnd, AllBlank, and_assoc]

/-- A line of an output is found among its lines, and what is behind it is blank with the lines
behind it. -/
theorem IsLine.linesOf_eq {output before line after : List Char}
    (isLine : IsLine output before line after) (blank : AllBlank after) :
    ∃ first last, linesOf output = first ++ line :: last ∧ ∀ other ∈ last, AllBlank other := by
  obtain ⟨rfl, begins, ends, single⟩ := isLine
  have behind : ∃ last, linesOf (line ++ after) = line :: last ∧
      ∀ other ∈ last, AllBlank other := by
    cases after with
    | nil =>
      refine ⟨[], ?_, by simp⟩
      rw [List.append_nil, linesOf_eq_splitOn, List.splitOn_eq_singleton single]
    | cons newline rest =>
      obtain rfl : newline = '\n' := by simpa [EndsLine] using ends
      refine ⟨linesOf rest, ?_, allBlank_linesOf.mpr (List.forall_mem_cons.mp blank).2⟩
      rw [linesOf_eq_splitOn, linesOf_eq_splitOn,
        List.splitOn_append_cons_self_of_not_mem single]
  obtain ⟨last, same, blankLast⟩ := behind
  rcases begins with rfl | newline
  · exact ⟨[], last, same, blankLast⟩
  · obtain ⟨front, rfl⟩ := List.getLast?_eq_some_iff.mp newline
    refine ⟨linesOf front, last, ?_, blankLast⟩
    rw [← same, List.append_assoc, List.singleton_append]
    simp only [linesOf_eq_splitOn]
    exact List.splitOn_append_cons_self front (line ++ after)

theorem IsLine.lastLine?_eq {output : String} {before line after : List Char}
    (isLine : IsLine output.toList before line after) (blank : AllBlank after)
    (filled : trim line ≠ []) : lastLine? output = some (trim line) := by
  obtain ⟨first, last, same, blankLast⟩ := isLine.linesOf_eq blank
  have passed : (last.reverse.map trim).find? (· ≠ []) = none := by
    simp only [List.find?_eq_none, List.mem_map, List.mem_reverse]
    rintro _ ⟨other, member, rfl⟩
    simp [trim_eq_nil.mpr (blankLast other member)]
  rw [lastLine?, same]
  simp only [List.reverse_append, List.reverse_cons, List.map_append, List.find?_append, passed]
  simp [filled]

theorem lastLine?_eq_none {output : String} :
    lastLine? output = none ↔ AllBlank output.toList := by
  rw [← allBlank_linesOf, lastLine?]
  simp [trim_eq_nil]

theorem exists_lineStart (front : List Char) :
    ∃ before start, front = before ++ start ∧ BeginsLine before ∧ '\n' ∉ start := by
  let inLine : Char → Bool := (· ≠ '\n')
  refine ⟨front.rdropWhile inLine, front.rtakeWhile inLine,
    List.rdropWhile_append_rtakeWhile.symm, or_iff_not_imp_left.mpr fun filled => ?_,
    fun member => absurd (List.mem_rtakeWhile_imp member) (by simp [inLine])⟩
  have last := List.rdropWhile_last_not inLine front filled
  rw [List.getLast?_eq_some_getLast filled]
  simpa [inLine] using last

theorem exists_lineEnd (back : List Char) :
    ∃ behind after, back = behind ++ after ∧ EndsLine after ∧ '\n' ∉ behind := by
  let inLine : Char → Bool := (· ≠ '\n')
  refine ⟨back.takeWhile inLine, back.dropWhile inLine, List.takeWhile_append_dropWhile.symm,
    or_iff_not_imp_left.mpr fun filled => ?_,
    fun member => absurd (List.mem_takeWhile_imp member) (by simp [inLine])⟩
  have first := List.head_dropWhile_not inLine filled
  rw [List.head?_eq_some_head filled]
  simpa [inLine] using first

theorem exists_lastSolid {output : List Char} (filled : ¬ AllBlank output) :
    ∃ front character back, output = front ++ character :: back ∧ ¬ isBlank character = true ∧
      AllBlank back := by
  have kept : output.rdropWhile isBlank ≠ [] := mt List.rdropWhile_eq_nil_iff.mp filled
  refine ⟨(output.rdropWhile isBlank).dropLast, _, output.rtakeWhile isBlank, ?_,
    List.rdropWhile_last_not isBlank output kept, fun _ member => List.mem_rtakeWhile_imp member⟩
  rw [← List.singleton_append, ← List.append_assoc, List.dropLast_append_getLast,
    List.rdropWhile_append_rtakeWhile]

/-- An output that is not blank has a last line that is not. -/
theorem exists_lastLine {output : List Char} (filled : ¬ AllBlank output) :
    ∃ before line after, IsLine output before line after ∧ AllBlank after ∧ ¬ AllBlank line := by
  obtain ⟨front, character, back, rfl, solid, blank⟩ := exists_lastSolid filled
  obtain ⟨before, start, rfl, begins, singleStart⟩ := exists_lineStart front
  obtain ⟨behind, after, rfl, ends, singleBehind⟩ := exists_lineEnd back
  have inLine : '\n' ≠ character := fun same => solid (same ▸ isBlank_newline)
  have single : '\n' ∉ start ++ character :: behind := by
    simp [singleStart, inLine, singleBehind]
  refine ⟨before, _, after, ⟨by simp, begins, ends, single⟩, (List.forall_mem_append.mp blank).2,
    fun blankLine => ?_⟩
  exact solid (blankLine character (by simp))

/-- The last line that is not blank is the one that is taken, without the blanks around it. -/
theorem exists_of_lastLine? {output : String} {trimmed : List Char}
    (last : lastLine? output = some trimmed) :
    ∃ before line after, IsLine output.toList before line after ∧ AllBlank after ∧
      trim line = trimmed := by
  have filled : ¬ AllBlank output.toList := by
    intro blank
    rw [lastLine?_eq_none.mpr blank] at last
    cases last
  obtain ⟨before, line, after, isLine, blank, solid⟩ := exists_lastLine filled
  refine ⟨before, line, after, isLine, blank, ?_⟩
  rw [isLine.lastLine?_eq blank (mt trim_eq_nil.mp solid)] at last
  exact Option.some.inj last

end Lines

section Names

/-- The last line that is not blank is a text, between blanks. -/
def LastText (output text : List Char) : Prop :=
  ∃ before line after left right, IsLine output before line after ∧ AllBlank after ∧
    line = left ++ (text ++ right) ∧ AllBlank left ∧ AllBlank right

theorem allBlank_of_blank {characters : List Char} (blank : Json.Blank characters) :
    AllBlank characters := by
  intro character member
  have space := blank character member
  simp only [Json.isSpace, Bool.or_eq_true, decide_eq_true_eq] at space
  obtain ((rfl | rfl) | rfl) | rfl := space <;> rfl

theorem exists_bracket {body : List Char} {names : List String}
    (items : Json.SpellsItems body names) : ∃ inner, body = inner ++ [']'] := by
  induction items with
  | @last body blanks => exact ⟨'"' :: (body ++ '"' :: blanks), by simp⟩
  | @more body before behind _ _ _ _ _ _ _ ih =>
    obtain ⟨inner, rfl⟩ := ih
    exact ⟨'"' :: (body ++ '"' :: (before ++ ',' :: (behind ++ inner))), by simp⟩

theorem exists_brackets {text : List Char} {names : List String}
    (spelled : SpellsTexts text names) : ∃ inner, text = '[' :: (inner ++ [']']) := by
  cases spelled with
  | empty => exact ⟨_, rfl⟩
  | @filled blanks _ _ _ items =>
    obtain ⟨inner, rfl⟩ := exists_bracket items
    exact ⟨blanks ++ inner, by simp⟩

theorem namesPrinted_eq_ok_iff {path : FilePath} {output : String} {names : List String} :
    namesPrinted path output = .ok names ↔
      ∃ line, lastLine? output = some line ∧
        Json.read? line = some (.list (names.map .text)) := by
  simp only [← Json.bind_toListOf?_eq_some]
  unfold namesPrinted
  cases lastLine? output with
  | none => simp
  | some line =>
    cases decoded : (Json.read? line).bind (Json.toListOf? Json.toText?) <;> simp [decoded]

theorem namesPrinted_of_lastText {path : FilePath} {output : String} {text : List Char}
    {names : List String} (last : LastText output.toList text) (spelled : SpellsTexts text names) :
    namesPrinted path output = .ok names := by
  have read : Json.read? text = some (.list (names.map .text)) :=
    Json.read?_eq_some_texts.mpr ⟨[], text, [], by simp, Json.blank_nil, Json.blank_nil, spelled⟩
  obtain ⟨before, line, after, left, right, isLine, blank, rfl, blankLeft, blankRight⟩ := last
  obtain ⟨inner, rfl⟩ := exists_brackets spelled
  have solid : ¬ isBlank '[' = true ∧ ¬ isBlank ']' = true := by decide
  have trimmed := trim_append blankLeft blankRight solid.1 solid.2 inner
  have taken := isLine.lastLine?_eq blank (by rw [trimmed]; exact List.cons_ne_nil _ _)
  exact namesPrinted_eq_ok_iff.mpr ⟨_, taken, trimmed.symm ▸ read⟩

theorem namesPrinted_eq_ok {path : FilePath} {output : String} {names : List String} :
    namesPrinted path output = .ok names ↔
      ∃ text, LastText output.toList text ∧ SpellsTexts text names := by
  constructor
  · intro printed
    obtain ⟨trimmed, taken, read⟩ := namesPrinted_eq_ok_iff.mp printed
    obtain ⟨before, line, after, isLine, blank, rfl⟩ := exists_of_lastLine? taken
    obtain ⟨left, right, blankLeft, blankRight, same⟩ := exists_trimmed line
    obtain ⟨start, text, behind, inside, blankStart, blankBehind, spelled⟩ :=
      Json.read?_eq_some_texts.mp read
    refine ⟨text, ⟨before, line, after, left ++ start, behind ++ right, isLine, blank, ?_,
      blankLeft.append (allBlank_of_blank blankStart),
      (allBlank_of_blank blankBehind).append blankRight⟩, spelled⟩
    rw [inside] at same
    simpa using same
  · intro listed
    obtain ⟨text, last, spelled⟩ := listed
    exact namesPrinted_of_lastText last spelled

theorem namesPrinted_eq_emptyOutput {path : FilePath} {output : String} :
    namesPrinted path output = .error (.emptyOutput path) ↔
      ∀ before line after, IsLine output.toList before line after → AllBlank line := by
  have nothing : namesPrinted path output = .error (.emptyOutput path) ↔
      lastLine? output = none := by
    unfold namesPrinted
    cases lastLine? output with
    | none => simp
    | some line =>
      dsimp only
      split <;> simp
  rw [nothing, lastLine?_eq_none]
  constructor
  · intro blank before line after isLine
    rw [isLine.whole] at blank
    exact (List.forall_mem_append.mp (List.forall_mem_append.mp blank).2).1
  · intro blank
    by_contra filled
    obtain ⟨before, line, after, isLine, -, solid⟩ := exists_lastLine filled
    exact solid (blank before line after isLine)

/-- What is printed in a line of its own is the last text, if only blanks come behind it. -/
theorem lastText_append {before text after : List Char} (begins : BeginsLine before)
    (single : '\n' ∉ text) (blank : AllBlank after) :
    LastText (before ++ (text ++ after)) text := by
  obtain ⟨right, behind, rfl, ends, singleRight⟩ := exists_lineEnd after
  obtain ⟨blankRight, blankBehind⟩ := List.forall_mem_append.mp blank
  have isLine : IsLine (before ++ (text ++ (right ++ behind))) before (text ++ right) behind :=
    ⟨by simp, begins, ends, by simp [single, singleRight]⟩
  exact ⟨before, _, behind, [], right, isLine, blankBehind, rfl, List.forall_mem_nil _, blankRight⟩

theorem namesPrinted_listed {path : FilePath} {before text after : String} {names : List String}
    {spell : Char → List Char} {blanks : List Char} (begins : BeginsLine before.toList)
    (blank : AllBlank after.toList)
    (spells : ∀ character, Json.SpellsCharacter (spell character) character)
    (space : ∀ character ∈ blanks, character = ' ')
    (printed : text.toList = listed spell (',' :: blanks) names) :
    namesPrinted path (before ++ text ++ after) = .ok names := by
  have single : '\n' ∉ text.toList := by
    rw [printed]
    apply Json.newline_notMem_listed spells
    intro member
    obtain member | member := List.mem_cons.mp member
    · exact absurd member (by decide)
    · exact absurd (space _ member) (by decide)
  have spelled : SpellsTexts text.toList names := by
    rw [printed]
    apply Json.spellsTexts_listed spells
    intro character member
    rw [space character member]
    rfl
  apply namesPrinted_of_lastText _ spelled
  rw [String.toList_append, String.toList_append, List.append_assoc]
  exact lastText_append begins single blank

end Names

/-- A list that is printed in a line by itself gives its names, whatever was printed before it. Only
a list in the last line that is not blank gives names, and the output counts as empty if and only
if there is no such line. -/
theorem names_are_listed_in_last_line (path : FilePath) :
    (∀ (names : List String) (before after : String), BeginsLine before.toList →
      AllBlank after.toList →
        namesPrinted path (before ++ (Json.list (names.map .text)).compact ++ after) = .ok names ∧
        namesPrinted path (before ++ Json.ascii names ++ after) = .ok names) ∧
    ∀ output : String,
      (∀ names, namesPrinted path output = .ok names ↔
        ∃ text, LastText output.toList text ∧ SpellsTexts text names) ∧
      (namesPrinted path output = .error (.emptyOutput path) ↔
        ∀ before line after, IsLine output.toList before line after → AllBlank line) := by
  refine ⟨fun names before after begins blank => ⟨?_, ?_⟩, fun output =>
    ⟨fun names => namesPrinted_eq_ok, namesPrinted_eq_emptyOutput⟩⟩
  · exact namesPrinted_listed begins blank Json.spellsCharacter_escape (List.forall_mem_nil _)
      (Json.toList_compact_texts names)
  · exact namesPrinted_listed begins blank Json.spellsCharacter_asciiEscape
      (List.forall_mem_singleton.mpr rfl) String.toList_ofList

/-- Names that take escapes of every kind: a mark, one number and two halves. -/
def awkwardNames : List String := ["a\nb", "\"\\\u2028", "é😀", ""]

theorem names_are_listed_in_last_line_of_awkwardNames :
    BeginsLine "[\"old\"]\n".toList ∧ AllBlank " \u2003\r\n\n".toList ∧
      namesPrinted ⟨"m.py"⟩ "[\"old\"]\n[\"a\\nb\",\"\\\"\\\\\u2028\",\"é😀\",\"\"] \u2003\r\n\n" =
        .ok awkwardNames ∧
      namesPrinted ⟨"m.py"⟩ ("[\"old\"]\n[\"a\\nb\", \"\\\"\\\\\\u2028\", " ++
        "\"\\u00e9\\ud83d\\ude00\", \"\"] \u2003\r\n\n") = .ok awkwardNames := by
  have begins : BeginsLine "[\"old\"]\n".toList := .inr (by decide)
  have blank : AllBlank " \u2003\r\n\n".toList := List.all_eq_true.mp (by decide)
  obtain ⟨compact, ascii⟩ :=
    (names_are_listed_in_last_line ⟨"m.py"⟩).1 awkwardNames _ _ begins blank
  exact ⟨begins, blank, compact, ascii⟩

end ExportIndex.Python
