import ExportIndex.Proofs.Json.Reading
import Mathlib

/-
This file says which texts are JSON lists of strings, and shows that the reader gets the strings of
a list from exactly these texts.
-/

namespace ExportIndex.Json

/-- A text is the strings of a list, with the commas between them and the bracket behind them. -/
inductive SpellsItems : List Char → List String → Prop
  | last {body blanks : List Char} {name : String}
      (spelled : SpellsAll SpellsCharacter body name.toList) (blank : Blank blanks) :
      SpellsItems ('"' :: (body ++ '"' :: (blanks ++ [']']))) [name]
  | more {body before behind others : List Char} {name : String} {names : List String}
      (spelled : SpellsAll SpellsCharacter body name.toList) (blank : Blank before)
      (blankBehind : Blank behind) (items : SpellsItems others names) :
      SpellsItems ('"' :: (body ++ '"' :: (before ++ ',' :: (behind ++ others)))) (name :: names)

/-- A text is a list of strings. -/
inductive SpellsTexts : List Char → List String → Prop
  | empty {blanks : List Char} (blank : Blank blanks) : SpellsTexts ('[' :: (blanks ++ [']'])) []
  | filled {blanks body : List Char} {names : List String} (blank : Blank blanks)
      (items : SpellsItems body names) : SpellsTexts ('[' :: (blanks ++ body)) names

theorem toText?_eq_some {json : Json} {value : String} :
    json.toText? = some value ↔ json = text value := by
  cases json <;> simp [toText?]

theorem mapM_toText?_eq_some {items : List Json} {names : List String} :
    items.mapM toText? = some names ↔ items = names.map text := by
  induction items generalizing names with
  | nil => simp [eq_comm]
  | cons item rest ih =>
    simp only [List.mapM_cons, Option.bind_eq_bind, Option.bind_eq_some_iff, Option.pure_def,
      toText?_eq_some, ih, Option.some.injEq]
    cases names with
    | nil => simp
    | cons name names => simp [and_comm]

theorem bind_toListOf?_eq_some {json? : Option Json} {names : List String} :
    json?.bind (toListOf? toText?) = some names ↔ json? = some (list (names.map text)) := by
  rcases json? with - | ⟨- | - | - | - | - | items | -⟩ <;>
    simp [toListOf?, toList?, mapM_toText?_eq_some]

section Complete

theorem readValue_text {body characters : List Char}
    (spelled : SpellsAll SpellsCharacter body characters) (depth : Nat) (rest : List Char) :
    readValue (depth + 1) ('"' :: (body ++ '"' :: rest)) =
      some (text (String.ofList characters), rest) := by
  have inner : readText (body ++ '"' :: rest) = some (characters, rest) :=
    readText_eq_some.mpr ⟨body, rfl, spelled⟩
  simp [readValue, skipSpaces_cons, isSpace, inner]

theorem SpellsItems.opens {body : List Char} {names : List String}
    (items : SpellsItems body names) : Opens body := by
  cases items <;> exact ⟨_, _, rfl, rfl, by decide⟩

/-- Every item goes behind a character, so the length of the text is depth enough. -/
theorem SpellsItems.read {body rest : List Char} {names : List String} {depth : Nat}
    (items : SpellsItems body names) (enough : body.length < depth) :
    readItems depth (body ++ rest) = some (names.map text, rest) := by
  induction items generalizing depth with
  | last spelled blank =>
    obtain ⟨depth, rfl⟩ : ∃ less, depth = less + 2 := ⟨depth - 2, by simp at enough; omega⟩
    have first (rest : List Char) := readValue_text spelled depth rest
    simp [readItems, first, skipSpaces_append blank, skipSpaces_cons, isSpace]
  | more spelled blank blankBehind items ih =>
    obtain ⟨depth, rfl⟩ : ∃ less, depth = less + 2 := ⟨depth - 2, by simp at enough; omega⟩
    have first (rest : List Char) := readValue_text spelled depth rest
    have behind : readItems (depth + 1) _ = _ := ih (by simp at enough; omega)
    rw [readItems]
    simp [first, skipSpaces_append blank, skipSpaces_cons, isSpace,
      readItems_blank blankBehind, behind]

end Complete

section Sound

theorem exists_blanks (characters : List Char) :
    ∃ blanks, Blank blanks ∧ characters = blanks ++ skipSpaces characters :=
  ⟨characters.takeWhile isSpace, fun _ member => List.mem_takeWhile_imp member,
    List.takeWhile_append_dropWhile.symm⟩

/-- A number is neither a string nor a list. -/
theorem readNumber_scalar {characters rest : List Char} {json : Json}
    (reads : readNumber characters = some (json, rest)) :
    json.toText? = none ∧ json.toList? = none := by
  have unsigned {negative : Bool} {characters : List Char}
      (reads : readUnsigned negative characters = some (json, rest)) :
      json.toText? = none ∧ json.toList? = none := by
    simp only [readUnsigned, Option.bind_eq_bind, Option.bind_eq_some_iff] at reads
    obtain ⟨whole, _, fraction, _, exponent, _, made⟩ := reads
    split_ifs at made <;> cases made <;> exact ⟨rfl, rfl⟩
  unfold readNumber at reads
  split at reads
  all_goals exact unsigned reads

/-- A string is read behind a quote. -/
theorem exists_of_readValue_text {depth : Nat} {characters rest : List Char} {name : String}
    (reads : readValue depth characters = some (text name, rest)) :
    ∃ blanks body, Blank blanks ∧ characters = blanks ++ '"' :: (body ++ '"' :: rest) ∧
      SpellsAll SpellsCharacter body name.toList := by
  cases depth with
  | zero => cases reads
  | succ depth =>
    obtain ⟨blanks, blank, same⟩ := exists_blanks characters
    rw [readValue] at reads
    split at reads
    case h_4 behind starts =>
      obtain ⟨⟨value, _⟩, readsText, made⟩ := Option.map_eq_some_iff.mp reads
      cases made
      obtain ⟨body, rfl, spelled⟩ := readText_eq_some.mp readsText
      rw [starts] at same
      exact ⟨blanks, body, blank, same, by rwa [String.toList_ofList]⟩
    case h_5 | h_6 =>
      split at reads
      · cases reads
      · obtain ⟨_, _, made⟩ := Option.map_eq_some_iff.mp reads
        cases made
    case h_7 => cases (readNumber_scalar reads).1
    all_goals cases reads

/-- A list is read behind a bracket. -/
theorem exists_of_readValue_list {depth : Nat} {characters rest : List Char} {items : List Json}
    (reads : readValue (depth + 1) characters = some (list items, rest)) :
    ∃ blanks behind, Blank blanks ∧ characters = blanks ++ '[' :: behind ∧
      (skipSpaces behind = ']' :: rest ∧ items = [] ∨
        readItems depth (skipSpaces behind) = some (items, rest)) := by
  obtain ⟨blanks, blank, same⟩ := exists_blanks characters
  rw [readValue] at reads
  split at reads
  case h_5 behind starts =>
    refine ⟨blanks, behind, blank, starts ▸ same, ?_⟩
    split at reads
    · next closed =>
      cases reads
      exact .inl ⟨closed, rfl⟩
    · obtain ⟨_, readsItems, made⟩ := Option.map_eq_some_iff.mp reads
      cases made
      exact .inr readsItems
  case h_4 =>
    obtain ⟨_, _, made⟩ := Option.map_eq_some_iff.mp reads
    cases made
  case h_6 =>
    split at reads
    · cases reads
    · obtain ⟨_, _, made⟩ := Option.map_eq_some_iff.mp reads
      cases made
  case h_7 => cases (readNumber_scalar reads).2
  all_goals cases reads

theorem exists_of_readItems {depth : Nat} {characters rest : List Char} {names : List String}
    (reads : readItems depth characters = some (names.map text, rest)) :
    ∃ blanks body, Blank blanks ∧ characters = blanks ++ (body ++ rest) ∧
      SpellsItems body names := by
  induction depth generalizing characters names with
  | zero => cases reads
  | succ depth ih =>
    rw [readItems] at reads
    simp only [Option.bind_eq_bind, Option.bind_eq_some_iff] at reads
    obtain ⟨⟨item, behind⟩, readsItem, readsBehind⟩ := reads
    obtain ⟨blanksBehind, blankBehind, sameBehind⟩ := exists_blanks behind
    dsimp only at readsBehind
    split at readsBehind
    · next others comma =>
      obtain ⟨⟨items, _⟩, readsItems, made⟩ := Option.bind_eq_some_iff.mp readsBehind
      simp only [Option.pure_def, Option.some.injEq, Prod.mk.injEq] at made
      obtain ⟨same, rfl⟩ := made
      obtain _ | ⟨name, names⟩ := names
      · cases same
      obtain ⟨rfl, rfl⟩ := List.cons.inj same
      obtain ⟨blanks, body, blank, rfl, spelled⟩ := exists_of_readValue_text readsItem
      obtain ⟨blanksItems, bodyItems, blankItems, rfl, spelledItems⟩ := ih readsItems
      refine ⟨blanks, _, blank, ?_, .more spelled blankBehind blankItems spelledItems⟩
      rw [sameBehind, comma]
      simp
    · next others bracket =>
      simp only [Option.pure_def, Option.some.injEq, Prod.mk.injEq] at readsBehind
      obtain ⟨same, rfl⟩ := readsBehind
      obtain _ | ⟨name, _ | _⟩ := names <;> cases same
      obtain ⟨blanks, body, blank, rfl, spelled⟩ := exists_of_readValue_text readsItem
      refine ⟨blanks, _, blank, ?_, .last spelled blankBehind⟩
      rw [sameBehind, bracket]
      simp
    · cases readsBehind

end Sound

theorem skipSpaces_eq_nil {characters : List Char} :
    skipSpaces characters = [] ↔ Blank characters :=
  List.dropWhile_eq_nil_iff

theorem Blank.append {first second : List Char} (blank : Blank first) (blankSecond : Blank second) :
    Blank (first ++ second) :=
  List.forall_mem_append.mpr ⟨blank, blankSecond⟩

theorem SpellsTexts.read {body : List Char} {names : List String} {depth : Nat}
    (spelled : SpellsTexts body names) (enough : body.length < depth) (rest : List Char) :
    readValue depth (body ++ rest) = some (list (names.map text), rest) := by
  obtain ⟨depth, rfl⟩ := Nat.exists_eq_add_one_of_ne_zero (Nat.ne_zero_of_lt enough)
  cases spelled with
  | empty blank => simp [readValue, skipSpaces_cons, isSpace, skipSpaces_append blank]
  | filled blank items =>
    rw [List.length_cons, List.length_append] at enough
    rw [List.cons_append, List.append_assoc, readValue_list blank (items.opens.append rest),
      items.read (by omega), Option.map_some]

theorem exists_of_readValue_texts {depth : Nat} {characters rest : List Char}
    {names : List String}
    (reads : readValue (depth + 1) characters = some (list (names.map text), rest)) :
    ∃ blanks body, Blank blanks ∧ characters = blanks ++ (body ++ rest) ∧
      SpellsTexts body names := by
  obtain ⟨blanks, behind, blank, rfl, items⟩ := exists_of_readValue_list reads
  obtain ⟨inner, blankInner, same⟩ := exists_blanks behind
  obtain ⟨closed, none⟩ | items := items
  · obtain rfl : names = [] := List.map_eq_nil_iff.mp none
    refine ⟨blanks, _, blank, ?_, .empty blankInner⟩
    rw [same, closed]
    simp
  · obtain ⟨before, body, blankBefore, start, spelled⟩ := exists_of_readItems items
    refine ⟨blanks, _, blank, ?_, .filled (blankInner.append blankBefore) spelled⟩
    rw [same, start]
    simp

/-- The reader finds a list of strings in the texts that write it, and in no others. -/
theorem read?_eq_some_texts {characters : List Char} {names : List String} :
    read? characters = some (list (names.map text)) ↔
      ∃ before body after, characters = before ++ (body ++ after) ∧ Blank before ∧ Blank after ∧
        SpellsTexts body names := by
  constructor
  · intro reads
    simp only [read?, Option.bind_eq_bind, Option.bind_eq_some_iff] at reads
    obtain ⟨⟨_, after⟩, readsValue, made⟩ := reads
    split_ifs at made with behind
    cases made
    obtain ⟨before, body, blank, same, spelled⟩ := exists_of_readValue_texts readsValue
    exact ⟨before, body, after, same, blank, skipSpaces_eq_nil.mp behind, spelled⟩
  · intro written
    obtain ⟨before, body, after, rfl, blank, blankAfter, spelled⟩ := written
    have enough : body.length < 2 * (before ++ (body ++ after)).length + 2 := by
      simp only [List.length_append]
      omega
    rw [read?, readValue_blank blank, spelled.read enough]
    exact if_pos (skipSpaces_eq_nil.mpr blankAfter)

end ExportIndex.Json
