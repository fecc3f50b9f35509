import ExportIndex.Proofs.Json.Reading
import Mathlib

/-
This file shows that both printers write values in texts that the reader understands, so that a
printed text determines its value.
-/

namespace ExportIndex.Json

mutual

/-- No number of a value is written with a fraction or an exponent. -/
def Integral : Json → Prop
  | real _ => False
  | list items => IntegralItems items
  | object members => IntegralMembers members
  | _ => True

def IntegralItems : List Json → Prop
  | [] => True
  | item :: rest => item.Integral ∧ IntegralItems rest

def IntegralMembers : List (String × Json) → Prop
  | [] => True
  | (_, value) :: rest => value.Integral ∧ IntegralMembers rest

end

theorem integralItems_iff {items : List Json} :
    IntegralItems items ↔ ∀ item ∈ items, item.Integral := by
  induction items with
  | nil => simp [IntegralItems]
  | cons item rest ih => simp [IntegralItems, ih]

section Separated

variable {before behind : List Char} (blank : Blank before) (blankBehind : Blank behind)

include blank blankBehind

/-- Items that are separated by commas, with the same blanks before each of them. -/
theorem writesItems_separated {items : List Json} {texts : List (List Char)}
    (written : List.Forall₂ Writes items texts) (filled : items ≠ []) :
    ∃ body, WritesItems items body ∧
      [','].intercalate (texts.map (before ++ ·)) ++ (behind ++ [']']) = before ++ body := by
  induction written with
  | nil => exact absurd rfl filled
  | @cons item text rest others first written ih =>
    cases written with
    | nil => exact ⟨text ++ (behind ++ [']']), .last first blankBehind, by simp⟩
    | @cons second next rest others second written =>
      obtain ⟨body, items, same⟩ := ih (by simp)
      refine ⟨text ++ ([] ++ ',' :: (before ++ body)),
        .more first (by simp [Blank]) blank items, ?_⟩
      rw [← same]
      simp [List.intercalate]

theorem writes_separatedList {items : List Json} {texts : List (List Char)}
    (written : List.Forall₂ Writes items texts) (filled : items ≠ []) :
    Writes (list items)
      ('[' :: ([','].intercalate (texts.map (before ++ ·)) ++ (behind ++ [']']))) := by
  obtain ⟨body, items, same⟩ := writesItems_separated blank blankBehind written filled
  exact same ▸ .list blank items

theorem writesMembers_separated {members : List (String × Json)} {texts : List (List Char)}
    (written : List.Forall₂ (fun member => WritesMember member.1 member.2) members texts)
    (filled : members ≠ []) :
    ∃ body, WritesMembers members body ∧
      [','].intercalate (texts.map (before ++ ·)) ++ (behind ++ ['\x7d']) = before ++ body := by
  induction written with
  | nil => exact absurd rfl filled
  | @cons item text rest others first written ih =>
    cases written with
    | nil => exact ⟨text ++ (behind ++ ['\x7d']), .last first blankBehind, by simp⟩
    | @cons second next rest others second written =>
      obtain ⟨body, items, same⟩ := ih (by simp)
      refine ⟨text ++ ([] ++ ',' :: (before ++ body)),
        .more first (by simp [Blank]) blank items, ?_⟩
      rw [← same]
      simp [List.intercalate]

theorem writes_separatedObject {members : List (String × Json)} {texts : List (List Char)}
    (written : List.Forall₂ (fun member => WritesMember member.1 member.2) members texts)
    (filled : members ≠ []) :
    Writes (object members)
      ('\x7b' :: ([','].intercalate (texts.map (before ++ ·)) ++ (behind ++ ['\x7d']))) := by
  obtain ⟨body, members, same⟩ := writesMembers_separated blank blankBehind written filled
  exact same ▸ .object blank members

end Separated

theorem blank_nil : Blank [] := by simp [Blank]

theorem blank_lineStart (depth : Nat) : Blank (lineStart depth).toList := by
  intro character member
  simp only [lineStart, String.toList_append, String.toList_ofList, List.mem_append] at member
  rcases member with newline | indentation
  · obtain rfl : character = '\n' := by simpa using newline
    rfl
  · rw [(List.mem_replicate.mp indentation).2]
    rfl

theorem toList_quote (value : String) : (quote value).toList = quoteChars value.toList :=
  String.toList_ofList

mutual

theorem compact_writes : (json : Json) → json.Integral → Writes json json.compact.toList
  | null, _ => .null
  | bool true, _ => .true
  | bool false, _ => .false
  | integer value, _ => .integer value
  | text value, _ => by
    rw [compact, toList_quote]
    exact .text value
  | list [], _ => .emptyList blank_nil
  | list (item :: rest), integral => by
    have written := compactItems_write (item :: rest) integral
    have whole := writes_separatedList blank_nil blank_nil written (List.cons_ne_nil _ _)
    simpa [compact, String.toList_intercalate, Function.comp_def] using whole
  | object [], _ => .emptyObject blank_nil
  | object (member :: rest), integral => by
    have written := compactMembers_write (member :: rest) integral
    have whole := writes_separatedObject blank_nil blank_nil written (List.cons_ne_nil _ _)
    simpa [compact, String.toList_intercalate, Function.comp_def] using whole

theorem compactItems_write : (items : List Json) → IntegralItems items →
    List.Forall₂ Writes items ((compactItems items).map String.toList)
  | [], _ => .nil
  | item :: rest, integral =>
    .cons (compact_writes item integral.1) (compactItems_write rest integral.2)

theorem compactMembers_write : (members : List (String × Json)) → IntegralMembers members →
    List.Forall₂ (fun member => WritesMember member.1 member.2) members
      ((compactMembers members).map String.toList)
  | [], _ => .nil
  | (key, value) :: rest, integral => by
    have written := compact_writes value integral.1
    refine .cons ?_ (compactMembers_write rest integral.2)
    simpa [toList_quote] using WritesMember.mk key written blank_nil blank_nil

end

/-- Items between brackets are printed over lines, or not at all. -/
theorem toList_bracketed (opening closing : String) (depth : Nat) {items : List String}
    (filled : items ≠ []) :
    (bracketed opening closing depth items).toList = opening.toList ++
      ([','].intercalate ((items.map String.toList).map ((lineStart (depth + 1)).toList ++ ·)) ++
        ((lineStart depth).toList ++ closing.toList)) := by
  unfold bracketed
  split
  · exact absurd rfl filled
  · simp [String.toList_intercalate, Function.comp_def]

mutual

theorem prettyAt_writes (depth : Nat) : (json : Json) → json.Integral →
    Writes json (json.prettyAt depth).toList
  | null, _ => by
    rw [prettyAt]
    exact .null
  | bool true, _ => by
    rw [prettyAt]
    exact .true
  | bool false, _ => by
    rw [prettyAt]
    exact .false
  | integer value, _ => by
    rw [prettyAt]
    exact .integer value
  | text value, _ => by
    rw [prettyAt, toList_quote]
    exact .text value
  | list [], _ => by
    rw [prettyAt, prettyItems, bracketed]
    exact .emptyList blank_nil
  | list (item :: rest), integral => by
    have written := prettyItems_write (depth + 1) (item :: rest) integral
    have whole := writes_separatedList (blank_lineStart (depth + 1)) (blank_lineStart depth)
      written (List.cons_ne_nil _ _)
    rwa [prettyAt, toList_bracketed _ _ _ (by simp [prettyItems])]
  | object [], _ => by
    rw [prettyAt, prettyMembers, bracketed]
    exact .emptyObject blank_nil
  | object (member :: rest), integral => by
    have written := prettyMembers_write (depth + 1) (member :: rest) integral
    have whole := writes_separatedObject (blank_lineStart (depth + 1)) (blank_lineStart depth)
      written (List.cons_ne_nil _ _)
    rwa [prettyAt, toList_bracketed _ _ _ (by simp [prettyMembers])]

theorem prettyItems_write (depth : Nat) : (items : List Json) → IntegralItems items →
    List.Forall₂ Writes items ((prettyItems depth items).map String.toList)
  | [], _ => .nil
  | item :: rest, integral =>
    .cons (prettyAt_writes depth item integral.1) (prettyItems_write depth rest integral.2)

theorem prettyMembers_write (depth : Nat) :
    (members : List (String × Json)) → IntegralMembers members →
      List.Forall₂ (fun member => WritesMember member.1 member.2) members
        ((prettyMembers depth members).map String.toList)
  | [], _ => .nil
  | (key, value) :: rest, integral => by
    have space : Blank [' '] := by simp [Blank, isSpace]
    have written := prettyAt_writes depth value integral.1
    refine .cons ?_ (prettyMembers_write depth rest integral.2)
    simpa [toList_quote] using WritesMember.mk key written blank_nil space

end

/-- A value that is printed on one line is read back. -/
theorem read?_compact {json : Json} (integral : json.Integral) :
    read? json.compact.toList = some json :=
  read?_of_writes (compact_writes json integral)

/-- A value that is printed over lines is read back. -/
theorem read?_pretty {json : Json} (integral : json.Integral) :
    read? json.pretty.toList = some json :=
  read?_of_writes (prettyAt_writes 0 json integral)

end ExportIndex.Json
