import ExportIndex.Proofs.Arena.Layout
import ExportIndex.Proofs.Extraction.Refusal
import ExportIndex.Proofs.Extraction.Reported
import Mathlib

/-
This file shows that the two parsers of a typed source with elements read it in the same way. They
fail together or not at all, and the records of the first one come first.
-/

namespace ExportIndex

/-- The arena that a source is read into, unless the source is too large or its tree has errors. -/
def readArena (grammar : Grammar) (settings : ParserSettings) (path : FilePath)
    (source : String) : Except ParseFailure Arena :=
  if settings.maxFileSize.toNat < source.utf8ByteSize
  then .error (.fileTooLarge path source.utf8ByteSize)
  else (Arena.checked (.ofTree source (grammar source)) path).map fun _ =>
    .ofTree source (grammar source)

/-- A source is too large, or a node of its tree is an error or missing. -/
def Unreadable (grammar : Grammar) (settings : ParserSettings) (source : String) : Prop :=
  settings.maxFileSize.toNat < source.utf8ByteSize ∨
    ∃ label ∈ (grammar source).labels, label.isError = true ∨ label.isMissing = true

/-- What is not read is a failure of the file, not of its extension. -/
theorem readArena_of_unreadable {grammar : Grammar} {settings : ParserSettings} {source : String}
    (path : FilePath) (unreadable : Unreadable grammar settings source) :
    ∃ failure, readArena grammar settings path source = .error failure ∧
      failure.isUnsupported = false := by
  rw [readArena]
  split
  · exact ⟨_, rfl, rfl⟩
  · next small =>
    obtain ⟨label, isLabel, faulty⟩ := unreadable.resolve_left small
    rw [Arena.checked]
    cases first : (Arena.ofTree source (grammar source)).firstError? with
    | none =>
      obtain ⟨noError, notMissing⟩ :=
        (Arena.firstError?_eq_none_iff_labels _ _).mp first label isLabel
      simp [noError, notMissing] at faulty
    | some node => exact ⟨_, rfl, rfl⟩

theorem readArena_of_readable {grammar : Grammar} {settings : ParserSettings} {source : String}
    (path : FilePath) (readable : ¬ Unreadable grammar settings source) :
    readArena grammar settings path source = .ok (.ofTree source (grammar source)) := by
  obtain ⟨small, sound⟩ := not_or.mp readable
  have clean : (Arena.ofTree source (grammar source)).firstError? = none := by
    refine (Arena.firstError?_eq_none_iff_labels _ _).mpr fun label isLabel => ?_
    have harmless : ¬ (label.isError = true ∨ label.isMissing = true) :=
      fun faulty => sound ⟨label, isLabel, faulty⟩
    simpa using harmless
  rw [readArena, if_neg small, (Arena.checked_eq_ok_iff _ path).mpr clean]
  rfl

section Elements

variable (grammars : Grammars) (programs : Python.Programs) (settings : ParserSettings)
  {path : FilePath} (source : String)

/-- The typed parser reads such a source by the grammar with elements. -/
theorem exportsUnder_typeScript_elements (isExtension : path.extension? = some "tsx") :
    Parser.typeScript.exportsUnder grammars programs settings path source =
      (readArena grammars.typedElements settings path source).map fun arena =>
        TypeScript.recordsFrom arena path 0 := by
  have known : "tsx" ∈ TypeScript.extensions := by decide
  rw [Parser.exportsUnder, TypeScript.exports,
    admitted_of_extension settings source isExtension known, readArena]
  split
  · rfl
  · change (Arena.checked (.ofTree source (grammars.typedElements source)) path >>= fun _ =>
      pure (TypeScript.recordsFrom (.ofTree source (grammars.typedElements source)) path 0)) = _
    cases Arena.checked (.ofTree source (grammars.typedElements source)) path <;> rfl

/-- The component parser reads it by the same grammar. -/
theorem exportsUnder_component_elements (isExtension : path.extension? = some "tsx") :
    Parser.component.exportsUnder grammars programs settings path source =
      (readArena grammars.typedElements settings path source).map fun arena =>
        Component.recordsFrom arena path 0 := by
  have known : "tsx" ∈ Component.extensions := by decide
  rw [Parser.exportsUnder, Component.exports,
    admitted_of_extension settings source isExtension known, readArena]
  split
  · rfl
  · change (Arena.checked (.ofTree source (grammars.typedElements source)) path >>= fun _ =>
      pure (Component.recordsFrom (.ofTree source (grammars.typedElements source)) path 0)) = _
    cases Arena.checked (.ofTree source (grammars.typedElements source)) path <;> rfl

end Elements

/-- Of a typed source with elements both parsers fail alike, or both find records. They fail if and
only if the source is too large or its tree has an error or a missing node, and then there are no
records. Else the records of the typed parser come first, as they are, and behind them come those
components, in order, whose names the typed parser does not report. -/
theorem typed_elements_extraction (grammars : Grammars) (programs : Python.Programs)
    (settings : ParserSettings) {path : FilePath} (source : String)
    (isExtension : path.extension? = some "tsx") :
    ((extractUnder grammars programs settings .typeScriptElements path source).failed = true ↔
      Unreadable grammars.typedElements settings source) ∧
    (Unreadable grammars.typedElements settings source →
      (∃ failure,
        Parser.typeScript.exportsUnder grammars programs settings path source = .error failure ∧
        Parser.component.exportsUnder grammars programs settings path source = .error failure) ∧
      (extractUnder grammars programs settings .typeScriptElements path source).records = []) ∧
    (¬ Unreadable grammars.typedElements settings source → ∃ typed components,
      Parser.typeScript.exportsUnder grammars programs settings path source = .ok typed ∧
      Parser.component.exportsUnder grammars programs settings path source = .ok components ∧
      (extractUnder grammars programs settings .typeScriptElements path source).records =
        typed ++ components.filter fun record =>
          record.name ∉ typed.map ExportRecord.name) := by
  have typedReads := exportsUnder_typeScript_elements grammars programs settings source isExtension
  have componentReads :=
    exportsUnder_component_elements grammars programs settings source isExtension
  have extracts : extractUnder grammars programs settings .typeScriptElements path source =
      .ofResults [Parser.typeScript.exportsUnder grammars programs settings path source,
        Parser.component.exportsUnder grammars programs settings path source] := rfl
  by_cases unreadable : Unreadable grammars.typedElements settings source
  · obtain ⟨failure, reads, counts⟩ := readArena_of_unreadable path unreadable
    rw [reads] at typedReads componentReads
    refine ⟨?_, fun _ => ⟨⟨failure, typedReads, componentReads⟩, ?_⟩,
      fun readable => absurd unreadable readable⟩
    · rw [extracts, typedReads, componentReads]
      simp [Extraction.ofResults, Extraction.isFailure, Except.map, counts, unreadable]
    · rw [extracts, typedReads, componentReads]
      rfl
  · rw [readArena_of_readable path unreadable] at typedReads componentReads
    have typedReported := Parser.exportsUnder_reported typedReads
    have componentsReported := Parser.exportsUnder_reported componentReads
    refine ⟨?_, fun refused => absurd refused unreadable, fun _ =>
      ⟨_, _, typedReads, componentReads, ?_⟩⟩
    · rw [extracts, typedReads, componentReads]
      simp [Extraction.ofResults, Extraction.isFailure, Except.map, unreadable]
    · rw [extracts, typedReads, componentReads]
      exact typedReported.merge_pair componentsReported

/-- Two components, the second of which is exported as the default behind its declaration. -/
def cards : ParseTree :=
  .notion "program" 0 68 [
    (none, .notion "export_statement" 0 28 [
      (none, .token "export" 0),
      (some "declaration", .notion "lexical_declaration" 7 28 [
        (some "kind", .token "const" 7),
        (none, .notion "variable_declarator" 13 27 [
          (some "name", .notion "identifier" 13 14 []),
          (none, .token "=" 15),
          (some "value", .notion "arrow_function" 17 27 [
            (some "parameters", .notion "formal_parameters" 17 19 [
              (none, .token "(" 17),
              (none, .token ")" 18)]),
            (none, .token "=>" 20),
            (some "body", .notion "jsx_self_closing_element" 23 27 [
              (none, .token "<" 23),
              (some "name", .notion "identifier" 24 25 []),
              (none, .token "/>" 25)])])]),
        (none, .token ";" 27)])]),
    (none, .notion "lexical_declaration" 29 50 [
      (some "kind", .token "const" 29),
      (none, .notion "variable_declarator" 35 49 [
        (some "name", .notion "identifier" 35 36 []),
        (none, .token "=" 37),
        (some "value", .notion "arrow_function" 39 49 [
          (some "parameters", .notion "formal_parameters" 39 41 [
            (none, .token "(" 39),
            (none, .token ")" 40)]),
          (none, .token "=>" 42),
          (some "body", .notion "jsx_self_closing_element" 45 49 [
            (none, .token "<" 45),
            (some "name", .notion "identifier" 46 47 []),
            (none, .token "/>" 47)])])]),
      (none, .token ";" 49)]),
    (none, .notion "export_statement" 51 68 [
      (none, .token "export" 51),
      (none, .token "default" 58),
      (some "value", .notion "identifier" 66 67 []),
      (none, .token ";" 67)])]

def cardsSource : String :=
  "export const A = () => <i/>; const B = () => <i/>; export default B;"

/-- Grammars that give every source the tree of the two components. -/
def cardGrammars : Grammars := ⟨fun _ => cards, fun _ => cards, fun _ => cards, fun _ => cards⟩

theorem readable_cards : ¬ Unreadable cardGrammars.typedElements .standard cardsSource := by
  unfold Unreadable
  decide +kernel

/-- The typed parser knows the second component as the default only, so both of them are found. -/
theorem typed_elements_extraction_of_cards :
    (extractUnder cardGrammars (fun _ => none) .standard .typeScriptElements ⟨"m.tsx"⟩
        cardsSource).records =
      [.named "A" .variable, .ofDefault "default" .default,
        (ExportRecord.ofDefault "B" .component).withMetadata (.props [])] := by
  have isExtension : (⟨"m.tsx"⟩ : FilePath).extension? = some "tsx" := by cbv
  obtain ⟨typed, components, typedFinds, componentFinds, merged⟩ :=
    (typed_elements_extraction cardGrammars (fun _ => none) .standard cardsSource
      isExtension).2.2 readable_cards
  have typedReads := exportsUnder_typeScript_elements cardGrammars (fun _ => none) .standard
    cardsSource isExtension
  have componentReads := exportsUnder_component_elements cardGrammars (fun _ => none) .standard
    cardsSource isExtension
  rw [readArena_of_readable _ readable_cards] at typedReads componentReads
  obtain rfl : typed = TypeScript.recordsFrom (.ofTree cardsSource cards) ⟨"m.tsx"⟩ 0 :=
    Except.ok.inj (typedFinds.symm.trans typedReads)
  obtain rfl : components = Component.recordsFrom (.ofTree cardsSource cards) ⟨"m.tsx"⟩ 0 :=
    Except.ok.inj (componentFinds.symm.trans componentReads)
  rw [merged, TypeScript.recordsFrom, Component.recordsFrom, Arena.walk_ofTree]
  decide +kernel

end ExportIndex
